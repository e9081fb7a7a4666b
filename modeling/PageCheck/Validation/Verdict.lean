import PageCheck.Validation.Finding

/-! Verdicts: the errors and warnings that rules have found, and whether the
document is valid.  Validity is kept up step by step: an error ends it, warnings do
not count. -/

set_option autoImplicit false

namespace PageCheck

structure Verdict where
  isValid : Bool
  errors : List Finding
  warnings : List Finding
deriving DecidableEq

namespace Verdict

def clean : Verdict :=
  ⟨true, [], []⟩

def addError (verdict : Verdict) (error : Finding) : Verdict :=
  { verdict with isValid := false, errors := verdict.errors ++ [error] }

def failed (error : Finding) : Verdict :=
  clean.addError error

def addWarning (verdict : Verdict) (warning : Finding) : Verdict :=
  { verdict with warnings := verdict.warnings ++ [warning] }

def merge (first second : Verdict) : Verdict where
  isValid := first.isValid && second.errors.isEmpty
  errors := first.errors ++ second.errors
  warnings := first.warnings ++ second.warnings

theorem foldl_merge (verdict : Verdict) (others : List Verdict) :
    others.foldl merge verdict =
      ⟨verdict.isValid && others.all (·.errors.isEmpty),
        verdict.errors ++ others.flatMap (·.errors),
        verdict.warnings ++ others.flatMap (·.warnings)⟩ := by
  induction others generalizing verdict with
  | nil => simp
  | cons other rest ih =>
      rw [List.foldl_cons, ih, List.flatMap_cons, List.flatMap_cons, List.all_cons]
      simp only [merge, List.append_assoc, Bool.and_assoc]

theorem foldl_addWarning (verdict : Verdict) (warnings : List Finding) :
    warnings.foldl addWarning verdict =
      { verdict with warnings := verdict.warnings ++ warnings } := by
  induction warnings generalizing verdict with
  | nil => simp
  | cons warning rest ih =>
      rw [List.foldl_cons, ih, addWarning, List.append_assoc, List.singleton_append]

end Verdict

end PageCheck
