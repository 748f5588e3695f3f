import Offload.Kernel.Basic

/-!
# Linear algebra on a device

The kernels that compute what the routines of the host compute, one work item for each element
of the result.

None of them looks beyond the end of a buffer: where a buffer turns out to be too short they
report an error instead.
-/

namespace Offload.Linear

/-- The type of integer arguments. -/
def intType : ElementType := .scalar .int32

/-- The type of the elements. -/
def realType : ElementType := .scalar .float32

/-- The size that an integer argument stands for; negative numbers stand for nothing. -/
def extent (v : Int32) : Nat := v.toInt.toNat

/-- A launch error of a kernel. -/
def refuse (kernel reason : String) : Body :=
  .fail (.launch kernel reason)

/-- The sum of the products of the elements of row `i` of `a` and column `j` of `b`, from place
`l` on, added to `acc`. -/
def sumProducts (a b : View realType) (i j k n : Nat) (next : Single → Body) :
    (rest l : Nat) → (acc : Single) → Body
  | 0, _, acc => next acc
  | rest + 1, l, acc =>
    .element a (i * k + l) fun (v : Single) =>
      .element b (l * n + j) fun (w : Single) =>
        sumProducts a b i j k n next rest (l + 1) (acc + v * w)

/-- A matrix times a vector: `m`, `n`, the matrix, the vector and the result. -/
def sgemvKernel (id : KernelId) : Kernel where
  id := id
  name := "sgemv"
  params := [.scalar .int32, .scalar .int32, .buffer realType .read, .buffer realType .read,
    .buffer realType .write]
  space := ⟨[.scalar 0]⟩
  body item :=
    let i := item.x
    .scalar 1 intType <| .orFail fun n =>
    .view 2 realType <| .orFail fun a =>
    .view 3 realType <| .orFail fun x =>
    match a.slice? (i * extent n) (extent n) with
    | none => refuse "sgemv" ("row " ++ Decimal.text i ++ " out of bounds")
    | some row =>
      .writable 4 realType <| .orFail fun y =>
      if i < y.len then .store 4 realType i (Single.dot row x.toList) (.orFail fun _ => .done)
      else refuse "sgemv" ("output " ++ Decimal.text i ++ " out of bounds")

/-- A multiple of a vector added to another: the factor, the vector and the other one. -/
def saxpyKernel (id : KernelId) : Kernel where
  id := id
  name := "saxpy"
  params := [.scalar .float32, .buffer realType .read, .buffer realType .readWrite]
  space := ⟨[.length 1]⟩
  body item :=
    let i := item.x
    .scalar 0 realType <| .orFail fun (alpha : Single) =>
    .view 1 realType <| .orFail fun x =>
    .element x i fun (v : Single) =>
    .writable 2 realType <| .orFail fun y =>
    match y.get? i with
    | some (w : Single) => .store 2 realType i (w + alpha * v) (.orFail fun _ => .done)
    | none => refuse "saxpy" ("output " ++ Decimal.text i ++ " out of bounds")

/-- A buffer that is too short for a matrix. -/
def tooShort (name : String) (actual required : Nat) : Body :=
  refuse "sgemm"
    (name ++ " has " ++ Decimal.text actual ++ " elements, needs " ++ Decimal.text required)

/-- The product of two matrices: `m`, `n`, `k`, the matrices and the result. -/
def sgemmKernel (id : KernelId) : Kernel where
  id := id
  name := "sgemm"
  params := [.scalar .int32, .scalar .int32, .scalar .int32, .buffer realType .read,
    .buffer realType .read, .buffer realType .write]
  space := ⟨[.scalar 1, .scalar 0]⟩
  body item :=
    let i := item.y
    let j := item.x
    .scalar 1 intType <| .orFail fun cols =>
    .scalar 2 intType <| .orFail fun inner =>
    let n := extent cols
    let k := extent inner
    .view 3 realType <| .orFail fun a =>
    .view 4 realType <| .orFail fun b =>
    if a.len < (i + 1) * k then tooShort "a" a.len ((i + 1) * k)
    else if b.len < k * n then tooShort "b" b.len (k * n)
    else
      sumProducts a b i j k n
        (fun sum =>
          .writable 5 realType <| .orFail fun c =>
          if i * n + j < c.len then
            .store 5 realType (i * n + j) sum (.orFail fun _ => .done)
          else
            refuse "sgemm"
              ("output (" ++ Decimal.text i ++ ", " ++ Decimal.text j ++ ") out of bounds"))
        k 0 Single.negZero

end Offload.Linear
