import Mathlib
import ApiPage.Log.Setup

/-!
# What a set-up of logging leaves behind

A set-up of logging removes the handlers, notes the form that is asked for in the environment, adds
a handler for the form in effect and sets the level, in this order. It fails where the form is
refused, before a handler is added, or where the level is refused, when only that is left to do; and
nothing is undone. So there are three outcomes, each with a state of its own, and the two arguments
alone decide which of them it is.

## Main definitions

* `Setup.InEffect`: the form in effect.
* `Setup.AsksForm`: what asking for a form does to the environment.

## Main results

* `Setup.setFormat_eq_ok_iff`: which forms are accepted.
* `Setup.configure_outcomes`: the state after a set-up that succeeds or fails.
* `Setup.exists_partial_setup`: a set-up that fails does not leave everything as it was.
-/

namespace ApiPage.Log.Setup

variable {s t : Setup} {level format : Datum} {e : Option SetupError}

/-! ### The form in effect -/

/-- **JSON is in effect** if the environment names it, or if it names no form and the log does not
go to a terminal. -/
def WritesJson (s : Setup) : Prop :=
  (∃ t, s.env.format = some t ∧ Text.lower t = Text.of "json") ∨
    (s.env.format = none ∨ s.env.format = some []) ∧ s.isTerminal = false

/-- **The form in effect**: JSON, or the form for people, which is coloured on a terminal. -/
def InEffect (s : Setup) (f : Formatter) : Prop :=
  s.WritesJson ∧ f = .json ∨ ¬s.WritesJson ∧ f = .human s.isTerminal

/-- **One handler**, of the form in effect. -/
def HasOneHandler (s : Setup) : Prop := ∃ f, s.handlers = [.stream f] ∧ s.InEffect f

/-- The name of the format is the one for JSON if JSON is written. -/
theorem formatName_eq_json_iff : s.formatName = Text.of "json" ↔ s.WritesJson := by
  have hdefault : Text.of (if s.isTerminal then "human" else "json") = Text.of "json" ↔
      s.isTerminal = false := by
    cases s.isTerminal <;> decide
  have hempty : Text.lower [] ≠ Text.of "json" := by decide
  rw [formatName, WritesJson]
  cases hformat : s.env.format with
  | none => simpa using hdefault
  | some t =>
    cases t with
    | nil => simpa [hempty] using hdefault
    | cons c r => simp

/-- **A new handler** is of the form in effect. -/
theorem hasOneHandler_add (h : s.handlers = []) : (s.add s.newHandler).HasOneHandler := by
  have hhandlers : (s.add s.newHandler).handlers = [s.newHandler] := by rw [add, h, List.nil_append]
  rw [HasOneHandler, hhandlers, newHandler]
  split
  · next hjson => exact ⟨_, rfl, .inl ⟨formatName_eq_json_iff.mp hjson, rfl⟩⟩
  · next hjson => exact ⟨_, rfl, .inr ⟨fun h => hjson (formatName_eq_json_iff.mpr h), rfl⟩⟩

/-! ### Asking for a form -/

/-- **Asking for a form** changes the environment to `env'`: without one it stays as it is, and a
text without null characters is noted. -/
def AsksForm (format : Datum) (env env' : Environment) : Prop :=
  format.truthy = false ∧ env' = env ∨
    ∃ t, format = .text t ∧ t ≠ [] ∧ '\x00' ∉ t ∧ env' = { env with format := some t }

/-- An environment variable takes a text without a null character. -/
theorem envText_eq_ok_iff {d : Datum} {t : Text} :
    envText d = .ok t ↔ d = .text t ∧ '\x00' ∉ t := by
  cases d with
  | text u =>
    rw [envText]
    split
    · next h =>
      simp only [reduceCtorEq, Datum.text.injEq, false_iff, not_and, not_not]
      rintro rfl
      simpa using h
    · next h =>
      simp only [Except.ok.injEq, Datum.text.injEq, iff_self_and]
      rintro rfl
      simpa using h
  | _ => simp [envText]

/-- **The forms that are accepted**, and what becomes of the environment. -/
theorem setFormat_eq_ok_iff :
    s.setFormat format = .ok t ↔ ∃ env, AsksForm format s.env env ∧ t = { s with env } := by
  rw [setFormat]
  split
  · next htruthy =>
    constructor
    · intro h
      cases htext : envText format with
      | error e =>
        rw [htext] at h
        cases h
      | ok u =>
        rw [htext] at h
        obtain rfl := Except.ok.inj h
        obtain ⟨rfl, hnull⟩ := envText_eq_ok_iff.mp htext
        refine ⟨_, .inr ⟨u, rfl, ?_, hnull, rfl⟩, rfl⟩
        rintro rfl
        cases htruthy
    · rintro ⟨env, ⟨hfalse, -⟩ | ⟨u, rfl, -, hnull, rfl⟩, rfl⟩
      · rw [hfalse] at htruthy
        cases htruthy
      · rw [envText_eq_ok_iff.mpr ⟨rfl, hnull⟩]
        rfl
  · next hfalse =>
    constructor
    · intro h
      obtain rfl := Except.ok.inj h
      exact ⟨s.env, .inl ⟨by simpa using hfalse, rfl⟩, rfl⟩
    · rintro ⟨env, ⟨-, rfl⟩ | ⟨u, rfl, hne, -⟩, rfl⟩
      · rfl
      · simp [Datum.truthy, hne] at hfalse

/-! ### Set-up -/

/-- **What a set-up leaves behind.** If it succeeds there is one handler, of the form in effect,
with the form and the level that were asked for. If it fails the level is as before, and the
handlers that there were are gone. Where it fails because of the form there is no handler, and the
environment is as before; where it fails because of the level all else is as if it had succeeded. -/
theorem configure_outcomes (h : s.configure level format = (t, e)) :
    (e = none → t.HasOneHandler ∧ AsksForm format s.env t.env ∧ askedLevel level = .ok t.level) ∧
    (e ≠ none → t.level = s.level ∧
      (t.handlers = [] ∧ t.env = s.env ∧ (¬∃ env, AsksForm format s.env env) ∨
        t.HasOneHandler ∧ AsksForm format s.env t.env ∧ ¬∃ l, askedLevel level = .ok l)) := by
  rw [configure] at h
  split at h
  · next e' hformat =>
    cases h
    refine ⟨nofun, fun _ => ⟨rfl, .inl ⟨rfl, rfl, ?_⟩⟩⟩
    rintro ⟨env, henv⟩
    have hok : s.clear.setFormat format = .ok { s.clear with env } :=
      setFormat_eq_ok_iff.mpr ⟨env, henv, rfl⟩
    rw [hok] at hformat
    cases hformat
  · next s' hformat =>
    obtain ⟨env, henv, rfl⟩ := setFormat_eq_ok_iff.mp hformat
    have hhandler := hasOneHandler_add (s := { s.clear with env }) rfl
    split at h
    · next e' hlevel =>
      cases h
      refine ⟨nofun, fun _ => ⟨rfl, .inr ⟨hhandler, henv, ?_⟩⟩⟩
      rintro ⟨l, hl⟩
      rw [hl] at hlevel
      cases hlevel
    · next l hlevel =>
      cases h
      exact ⟨fun _ => ⟨hhandler, henv, hlevel⟩, fun h => absurd rfl h⟩

/-- A level in the wrong case, and one that is no text. -/
theorem configure_outcomes_refusedLevel :
    ((initial true).configure (.str "Debug") (.str "JSON")).2 = none ∧
      ((initial true).configure (.str "Debug") (.str "JSON")).1.HasOneHandler ∧
    ((initial true).configure .null (.str "JSON")).2 ≠ none ∧
      ((initial true).configure .null (.str "JSON")).1.HasOneHandler ∧
      ((initial true).configure .null (.str "JSON")).1.level = Level.warning := by
  have hdone : ((initial true).configure (.str "Debug") (.str "JSON")).2 = none := rfl
  have hfailed : ((initial true).configure .null (.str "JSON")).2 ≠ none := nofun
  have hfirst := configure_outcomes
    (show (initial true).configure (.str "Debug") (.str "JSON") = (_, _) from rfl)
  have hsecond := configure_outcomes
    (show (initial true).configure .null (.str "JSON") = (_, _) from rfl)
  obtain ⟨hlevel, hcause⟩ := hsecond.2 hfailed
  refine ⟨hdone, (hfirst.1 hdone).1, hfailed, ?_, hlevel⟩
  obtain ⟨hnone, -⟩ | ⟨hone, -⟩ := hcause
  · cases hnone
  · exact hone

/-- **A set-up that fails does not leave everything as it was**: with a form that no environment
takes the handlers are gone, and with a level of another type the form is noted, too. -/
theorem exists_partial_setup :
    ((initial false).configure (.str "INFO") (.text ['\x00'])).2 ≠ none ∧
      ((initial false).configure (.str "INFO") (.text ['\x00'])).1.handlers ≠
        (initial false).handlers ∧
    ((initial false).configure .null (.str "human")).2 ≠ none ∧
      ((initial false).configure .null (.str "human")).1.handlers ≠ (initial false).handlers ∧
      ((initial false).configure .null (.str "human")).1.env.format ≠ (initial false).env.format :=
  ⟨nofun, by decide, nofun, by decide, by decide⟩

end ApiPage.Log.Setup
