import WalletTrust.Proofs.Environment.Loading
import WalletTrust.Settings

/-!
# Settings are settled by one load

Every setting is read after the file was loaded once more. Only the first load can change the
environment, so it does not matter which settings are asked for, how often and in which order.
-/

namespace WalletTrust.Configuration

open Environment (Access)
open Text (toPoints)

variable {α : Type} {file? : Option String} {env next : Environment}

/-- The first load is successful, and another one changes nothing. -/
structure Settles (file? : Option String) (env next : Environment) : Prop where
  first : Access.load file? env = (.ok (), next)
  again : Access.load file? next = (.ok (), next)

theorem Settles.refl (h : Settles file? env next) : Settles file? next next := ⟨h.again, h.again⟩

theorem loading_of_settles (h : Settles file? env next) (f : Environment → α) :
    loading file? f env = (.ok (f next), next) := by
  rw [loading, Access.bind_of_ok h.first]
  rfl

private theorem getAll_of_settles (h : Settles file? env next) (asked : List Setting) :
    (Setting.getAll file? asked env).1 = .ok (asked.map (·.valueIn next)) := by
  induction asked generalizing env with
  | nil => rfl
  | cons s asked ih =>
    have hget : s.get file? env = (.ok (s.valueIn next), next) := loading_of_settles h s.valueIn
    have hrest := ih h.refl
    rw [Setting.getAll, Access.bind_of_ok hget]
    cases hall : Setting.getAll file? asked next with
    | mk answer last =>
      rw [hall] at hrest
      cases hrest
      rw [Access.bind_of_ok hall]
      rfl

private theorem settings_of_settles (h : Settles file? env next) :
    settings file? env = (.ok (ofEnvironment next), next) := by
  rw [settings, Access.bind_of_ok (loading_of_settles h _),
    Access.bind_of_ok (loading_of_settles h.refl _),
    Access.bind_of_ok (loading_of_settles h.refl _),
    Access.bind_of_ok (loading_of_settles h.refl _),
    Access.bind_of_ok (loading_of_settles h.refl _)]
  rfl

/-- A setting cannot be had if loading fails. -/
theorem loading_of_error {f : Failure} (h : Access.load file? env = (.error f, next))
    (g : Environment → α) : loading file? g env = (.error f, next) := by
  rw [loading, Access.bind_of_error h]

/-- Loading keeps what is present, adds what the file assigns, and changes nothing when it is done
again. It fails only if a line gives a value to a name with an equals sign in it. Otherwise all
settings are what they are in the environment after one load. -/
theorem settings_settled_by_one_load {text : String} (htext : '\x00' ∉ text.toList)
    {env : Environment} (henv : env.WellFormed) :
    ∃ answer after, Access.load (some text) env = (answer, after) ∧
      (∀ name v, env.get? name = some v → after.get? name = some v) ∧
      (∀ name, env.get? name = none → after.get? name ≠ none →
        ∃ s, Environment.File.assigns text s = true ∧ name = toPoints s) ∧
      (Access.load (some text) after).2 = after ∧
      (answer = .ok () ↔ env.isSwitchedOff = true ∨
        ∀ s, Environment.File.assigns text s = true → '=' ∉ s.toList) ∧
      (answer = .ok () →
        (∀ asked, (Setting.getAll (some text) asked env).1 =
          .ok (asked.map (·.valueIn after))) ∧
        settings (some text) env = (.ok (ofEnvironment after), after)) := by
  have hclean : Environment.File.Clean text.toList := fun c hc heq => htext (heq ▸ hc)
  obtain ⟨answer, after, hload, hgrown, hanswer, hagain, hsettled⟩ :=
    Environment.exists_load hclean henv
  refine ⟨answer, after, hload, hgrown.kept, hgrown.added, hagain, hanswer, ?_⟩
  rintro rfl
  have hsettles : Settles (some text) env after := ⟨hload, hsettled rfl⟩
  exact ⟨getAll_of_settles hsettles, settings_of_settles hsettles⟩

/-- A file whose values refer to the environment, to each other and to a name that it assigns later.
-/
def referring : String :=
  "A=$\x7bB\x7d$\x7bC:-c\x7d\nB=$\x7bHOME\x7d\nB\nB = 'b' # b\nAPI_HOST=$\x7bA\x7d\n\"\nC"

def inhabited : Environment :=
  [(toPoints "HOME", [0xdcc3]), (toPoints "API_PORT", [])]

theorem settings_settled_by_one_load_referring :
    ∃ after, Access.load (some referring) inhabited = (.ok (), after) ∧
      after.get? (toPoints "API_PORT") = some [] ∧
      (Access.load (some referring) after).2 = after ∧
      (Setting.getAll (some referring) [.persist, .apiHost, .persist] inhabited).1 =
        .ok [Setting.valueIn .persist after, Setting.valueIn .apiHost after,
          Setting.valueIn .persist after] ∧
      settings (some referring) inhabited = (.ok (ofEnvironment after), after) := by
  have hclean : '\x00' ∉ referring.toList := by decide +kernel
  have hwell : inhabited.WellFormed := ⟨by decide +kernel, by decide +kernel⟩
  have hnames : ∀ s ∈ Environment.namesOf (Environment.File.bindings referring),
      '=' ∉ s.toList := by decide +kernel
  obtain ⟨answer, after, hload, hkept, -, hagain, hanswer, hsettled⟩ :=
    settings_settled_by_one_load hclean hwell
  obtain rfl : answer = .ok () :=
    hanswer.2 (.inr fun s hs => hnames s (Environment.mem_namesOf_of_assigns hs))
  obtain ⟨hasked, hsettings⟩ := hsettled rfl
  exact ⟨after, hload, hkept _ _ (by decide +kernel), hagain, hasked _, hsettings⟩

/-- A quoted name may have an equals sign in it. Next to a file that gives it a value, no setting
can be had. -/
theorem quoted_name_stops_settings :
    Setting.get .adminAddress (some "'A=B'=1\n") [] = (.error .badVariable, []) ∧
      settings (some "'A=B'=1\n") [] = (.error .badVariable, []) := by
  have hload : Access.load (some "'A=B'=1\n") [] = (.error .badVariable, []) := by
    rfl
  refine ⟨loading_of_error hload _, ?_⟩
  rw [settings, Access.bind_of_error (loading_of_error hload _)]

end WalletTrust.Configuration
