import Ensemble.Failure
import Ensemble.Text.Blank

/-!
# Session names

A session name holds something besides blanks, has at most 64 bytes, and holds no control
characters.  If several of these fail, the first of them in this order is reported.
-/

namespace Ensemble.Session

/-- Checks a session name. -/
def checkName (name : String) : Attempt Unit :=
  if Text.isBlankText name then .error (.invalid .emptyName)
  else if maxNameLength < name.utf8ByteSize then .error (.invalid .longName)
  else if name.toList.any Text.isControl then .error (.invalid .controlInName)
  else .ok ()

/-- Exactly the names with all three properties are accepted. -/
theorem checkName_eq_ok_iff (name : String) :
    checkName name = .ok () ↔
      Text.isBlankText name = false ∧ name.utf8ByteSize ≤ maxNameLength ∧
        name.toList.any Text.isControl = false := by
  unfold checkName
  split
  next h => simp [h]
  next h =>
    split
    next long => simp [h, Nat.not_le.2 long]
    next short =>
      split
      next control => simp [control]
      next plain => simp [h, Nat.not_lt.1 short, plain]

end Ensemble.Session
