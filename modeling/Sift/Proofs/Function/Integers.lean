import Sift.Proofs.Function.Arguments
import Sift.Proofs.Path.Characters
import Sift.Proofs.Text.Integer
import Sift.Regex.Engine

/-! What the functions `string` and `integer` make of an integer.

The text that `string` writes is the number that `integer` reads, for all integers of 64 bits, so
it makes no difference whether a number goes through its text or not. But the results of `integer`
are integers of 32 bits; a number that does not fit is of no use to it, and it gives zero, as it
does for a text that is no number (`integer_inverts_string`). -/
namespace Sift.Function

open Text

/-! ### Numbers as text -/

/-- Integers that fit a signed word of 32 bits. -/
def fitsInt32 (n : Int) : Bool := -0x80000000 ≤ n && n < 0x80000000

/-- Neither a digit nor a sign is white space. -/
theorem strip_toString (n : Int) : strip (toString n).toList = (toString n).toList := by
  have hdigits : ∀ c ∈ Nat.toDigits 10 n.natAbs, isBlank c = false :=
    fun c hc => Path.isBlank_of_isDigit (isDigit_of_mem_digits hc)
  have hall : ∀ c ∈ (toString n).toList, isBlank c = false := by
    rw [toList_toString]
    split
    · exact List.forall_mem_cons.2 ⟨by decide, hdigits⟩
    · exact hdigits
  exact stripWhile_eq_self (fun c hc => hall c (List.mem_of_head? hc))
    fun c hc => hall c (List.mem_of_getLast? hc)

/-- Integers of 64 bits are read from the text that is written for them. -/
theorem readInt?_integer {n : Int} (hn : fitsInt64 n = true) :
    Format.readInt? (Format.integer n) = some n := by
  rw [Format.readInt?, Format.integer, writeInteger, strip_toString, readInt64?_toString hn]

/-! ### The two functions -/

variable {n : Int} {scope : Scope} {arg : Expr}

theorem int?_integer (hn : fitsInt64 n = true) :
    Coerce.int? (Value.int n) true = if fitsInt32 n then some n else none := by
  have hlong : Coerce.long? (Value.int n) true = some n := if_pos hn
  rw [Coerce.int?, hlong, Option.filter_some]
  rfl

theorem int?_written (hn : fitsInt64 n = true) :
    Coerce.int? (Value.text (Format.integer n)) true = if fitsInt32 n then some n else none := by
  have hlong : Coerce.long? (Value.text (Format.integer n)) true = some n := readInt?_integer hn
  rw [Coerce.int?, hlong, Option.filter_some]
  rfl

theorem eval_string (hn : fitsInt64 n = true) (harg : arg.eval scope = .int n) :
    (Expr.string arg).eval scope = .text (Format.integer n) := by
  have htext : Coerce.text? (Value.int n) true = some (Format.integer n) := by
    show (if fitsInt64 n then some n else none).map Format.integer = _
    rw [if_pos hn]
    rfl
  rw [Expr.eval, harg, htext]
  rfl

/-- A number that is of no use is zero. -/
theorem getD_fitsInt32 (n : Int) :
    (if fitsInt32 n then some n else none).getD 0 = if fitsInt32 n then n else 0 := by
  split <;> rfl

theorem eval_integer (hn : fitsInt64 n = true) (harg : arg.eval scope = .int n) :
    (Expr.integer arg).eval scope = .int (if fitsInt32 n then n else 0) := by
  rw [Expr.eval, harg, int?_integer hn, getD_fitsInt32]

theorem eval_integer_string (hn : fitsInt64 n = true) (harg : arg.eval scope = .int n) :
    (Expr.integer (.string arg)).eval scope = .int (if fitsInt32 n then n else 0) := by
  rw [Expr.eval, eval_string hn harg, int?_written hn, getD_fitsInt32]

/-! ### Bodies -/

theorem find?_string (engine : Engine) :
    (Registry.standard engine).find? "string" = some (.library .string) :=
  find?_library engine (by decide +kernel)

theorem find?_integer (engine : Engine) :
    (Registry.standard engine).find? "integer" = some (.library .integer) :=
  find?_library engine (by decide +kernel)

theorem get?_own (name : String) (arg : Expr) :
    Arguments.get? [(name, arg)] name = some arg := by
  rw [Arguments.get?, List.find?_cons, sameAscii_refl]
  rfl

theorem apply_string (engine : Engine) (arg : Expr) :
    Builtin.string.apply? engine [("string", arg)] = some (.string arg) :=
  congrArg (Option.map Expr.string) (get?_own "string" arg)

theorem apply_integer (engine : Engine) (arg : Expr) :
    Builtin.integer.apply? engine [("integer", arg)] = some (.integer arg) :=
  congrArg (Option.map Expr.integer) (get?_own "integer" arg)

theorem compile_integer {engine : Engine} {path : String} {v : Value}
    (harg : compileArgument (.standard engine) (path ++ "." ++ "integer") v = .ok arg) :
    compile (.standard engine) path (.object [("integer", v)]) = .ok (.integer arg) :=
  compile_only (find?_integer engine) harg (apply_integer engine arg)

theorem compileArgument_string (engine : Engine) (path : String) (n : Int) :
    compileArgument (.standard engine) path (.object [("string", .int n)]) =
      .ok (.string (.constant (.int n))) := by
  have hbody : body? (.object [("string", .int n)]) = none := rfl
  rw [compileArgument_object hbody]
  exact compile_only (find?_string engine) rfl (apply_string engine _)

/-- **A number is the same through its text and without it**, for all integers of 64 bits: the
function `integer`, applied to the number or to what `string` makes of it, gives the number back
if it fits 32 bits, and zero if not. So it is for every argument that gives the number, and for
the bodies `integer: n` and `integer: {string: n}`. -/
theorem integer_inverts_string (hn : fitsInt64 n = true) (engine : Engine) (scope : Scope) :
    (∀ arg : Expr, arg.eval scope = .int n →
      (Expr.integer arg).eval scope = .int (if fitsInt32 n then n else 0) ∧
        (Expr.integer (.string arg)).eval scope = .int (if fitsInt32 n then n else 0)) ∧
      ∀ path, ∃ e e',
        let r := Registry.standard engine
        compile r path (.object [("integer", .int n)]) = .ok e ∧
          compile r path (.object [("integer", .object [("string", .int n)])]) = .ok e' ∧
          e.eval scope = .int (if fitsInt32 n then n else 0) ∧
          e'.eval scope = .int (if fitsInt32 n then n else 0) := by
  refine ⟨fun arg harg => ⟨eval_integer hn harg, eval_integer_string hn harg⟩, fun path => ?_⟩
  exact ⟨_, _, compile_integer rfl, compile_integer (compileArgument_string engine _ n),
    eval_integer hn rfl, eval_integer_string hn rfl⟩

/-- The least integer of 32 bits, with a sign and through a path. -/
theorem integer_inverts_string_least :
    let n : Int := -2147483648
    let scope : Scope := ⟨fun _ => none, fun _ => some (.int n), ⟨0, 0⟩⟩
    let arg : Expr := .path (.mk "n" [.member "n" false] [.member "n" false])
    let r := Registry.standard Regex.engine
    fitsInt64 n = true ∧ arg.eval scope = .int n ∧ (Expr.integer arg).eval scope = .int n ∧
      (Expr.integer (.string arg)).eval scope = .int n ∧
      ∃ e', compile r "$" (.object [("integer", .object [("string", .int n)])]) = .ok e' ∧
        e'.eval scope = .int n := by
  intro n scope arg r
  have hn : fitsInt64 n = true := by decide
  have harg : arg.eval scope = .int n := rfl
  obtain ⟨hargs, hbodies⟩ := integer_inverts_string hn Regex.engine scope
  obtain ⟨_, e', -, he', -, hvalue⟩ := hbodies "$"
  exact ⟨hn, harg, (hargs arg harg).1, (hargs arg harg).2, e', he', hvalue⟩

/-- The next integer after those of 32 bits is lost, with its text and without. -/
theorem integer_loses_large :
    let n : Int := 2147483648
    let scope : Scope := ⟨fun _ => none, fun _ => none, ⟨0, 0⟩⟩
    let r := Registry.standard Regex.engine
    fitsInt64 n = true ∧
      ∃ e e', compile r "$" (.object [("integer", .int n)]) = .ok e ∧
        compile r "$" (.object [("integer", .object [("string", .int n)])]) = .ok e' ∧
        e.eval scope ≠ .int n ∧ e'.eval scope ≠ .int n := by
  intro n scope r
  have hn : fitsInt64 n = true := by decide
  have hlost : Value.int (if fitsInt32 n then n else 0) ≠ .int n := by
    intro h
    exact absurd (Value.int.inj h) (by decide)
  refine ⟨hn, _, _, compile_integer rfl, compile_integer (compileArgument_string _ _ n), ?_, ?_⟩
  · rw [eval_integer hn rfl]
    exact hlost
  · rw [eval_integer_string hn rfl]
    exact hlost

end Sift.Function
