import ODataBrowser.Gateway.Standard

/-!
# The standard framework

The standard framework is one that a gateway can rely on (`Framework.lawful_standard`). It decodes the body of a request
before it looks at the key, and it validates the form in the body only where the check of the key has raised nothing.
-/

namespace ODataBrowser.Framework

namespace Standard

variable {route : Route} {r : ApiRequest} {answer : ApiAnswer}

/-- A body that cannot be decoded is answered with one of two statuses. -/
theorem status_of_formOf_eq_error (h : formOf r = .error answer) : answer.status = 400 ∨ answer.status = 422 := by
  unfold formOf at h
  split at h
  · contradiction
  · unfold jsonFormOf at h
    split at h
    · contradiction
    all_goals cases h
    · exact .inr rfl
    all_goals exact .inl rfl

theorem argumentsOf_of_undecodable (h : standard.undecodable? route r = some answer) :
    argumentsOf r route = .error answer := by
  unfold standard at h
  dsimp only at h
  split at h
  · rename_i heq
    rw [heq, Option.some.inj h]
  · contradiction

theorem exists_argumentsOf (h : standard.undecodable? route r = none) :
    ∃ arguments, argumentsOf r route = .ok arguments := by
  unfold standard at h
  dsimp only at h
  split at h
  · contradiction
  · exact ⟨_, ‹_›⟩

/-- A key that is missing makes a request invalid, whether its arguments are valid or not. -/
theorem validated_of_missing {α : Type} (missing : Objection) (arguments : Except (List Objection) α) :
    validated [missing] arguments = .error (.unprocessable Value.isQuotable
      (missing :: match arguments with
        | .ok _ => []
        | .error objections => objections)) := by
  cases arguments <;> rfl

end Standard

open Standard

/-- **A gateway can rely on the standard framework.** -/
theorem lawful_standard : standard.Lawful where
  page_of_undecodable {route r answer} h := by
    have h := argumentsOf_of_undecodable h
    cases route with
    | page name => exact ⟨name, rfl⟩
    | health | resources | reset => contradiction
  status_of_undecodable {route r answer} h := by
    have h := argumentsOf_of_undecodable h
    cases route with
    | page name => exact status_of_formOf_eq_error h
    | health | resources | reset => contradiction
  receive_of_undecodable h := by
    simp only [standard, argumentsOf_of_undecodable h]
    rfl
  receive_of_raised h hgiven hraised := by
    obtain ⟨arguments, harguments⟩ := exists_argumentsOf h
    simp only [standard, harguments, checkKey, hgiven, hraised]
    rfl
  receive_of_missing {route check r} h hmissing := by
    obtain ⟨arguments, harguments⟩ := exists_argumentsOf h
    have hkey : checkKey r (some check) = .ok [⟨"header.x-api-key", []⟩] := by rw [checkKey, hmissing]
    have hreceived : standard.receive route (some check) r = validated [⟨"header.x-api-key", []⟩] arguments := by
      simp only [standard, harguments, hkey]
      rfl
    rw [hreceived, validated_of_missing]
    simp only [unprocessable, standard, harguments]
    cases arguments <;> rfl

end ODataBrowser.Framework
