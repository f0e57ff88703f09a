import WalletTrust.Proofs.Text.Blank
import WalletTrust.Startup

/-!
# Blank variables

A configuration does not change if blanks are put around the value of a variable, or if a variable
without a value is given a blank one. The exception is the first address of a database: if it is
blank without being empty, the second address is not looked at.
-/

namespace WalletTrust

namespace Environment

def unset (env : Environment) (name : Text.Points) : Environment := env.filter (·.1 != name)

theorem get?_unset (env : Environment) (name other : Text.Points) :
    (env.unset name).get? other = if name = other then none else env.get? other := by
  by_cases h : name = other
  · subst h
    simp [unset, get?]
  · rw [if_neg h, get?, get?, unset, List.find?_filter]
    congr 2
    funext entry
    by_cases hother : entry.1 = other
    · simpa [hother] using Ne.symm h
    · simp [hother]

/-- An environment with something put around the value of a name. -/
def pad (env : Environment) (name left right : Text.Points) : Environment :=
  env.set name (left ++ ((env.get? name).getD [] ++ right))

end Environment

namespace Configuration

open Text (Points)

def settingNames : List String :=
  ["TURBOAUTH_ADMIN_ADDRESS", "TURBOAUTH_DB_URL", "DATABASE_URL", "TURBOAUTH_DB_PATH", "API_HOST",
    "API_PORT", "TURBOAUTH_PERSIST"]

/-- The variables have the same values up to blanks around them, and unset ones count as empty. -/
def AlikeUpToBlanks (env env' : Environment) : Prop :=
  ∀ name ∈ settingNames, stripped env name = stripped env' name

/-- The first address of a database is blank, but not empty. -/
def HasBlankUrl (env : Environment) : Prop :=
  valueOf env "TURBOAUTH_DB_URL" ≠ [] ∧ stripped env "TURBOAUTH_DB_URL" = []

/-- The address of the file that is opened where no address is given. -/
def fileUrl (env : Environment) : Points :=
  Text.toPoints "sqlite:///" ++ orElse (stripped env "TURBOAUTH_DB_PATH") defaultPath

theorem databaseUrlOf_of_hasBlankUrl {env : Environment} (h : HasBlankUrl env) :
    databaseUrlOf env = fileUrl env := by
  obtain ⟨hset, hblank⟩ := h
  have hnamed : orElse (valueOf env "TURBOAUTH_DB_URL") (valueOf env "DATABASE_URL") =
      valueOf env "TURBOAUTH_DB_URL" := if_neg hset
  have hfile : orElse (stripped env "TURBOAUTH_DB_URL") (fileUrl env) = fileUrl env :=
    if_pos hblank
  rw [databaseUrlOf, hnamed]
  exact hfile

theorem databaseUrlOf_of_not_hasBlankUrl {env : Environment} (h : ¬ HasBlankUrl env) :
    databaseUrlOf env = orElse (stripped env "TURBOAUTH_DB_URL")
      (orElse (stripped env "DATABASE_URL") (fileUrl env)) := by
  by_cases hset : valueOf env "TURBOAUTH_DB_URL" = []
  · have hblank : stripped env "TURBOAUTH_DB_URL" = [] := by
      rw [stripped, hset]
      rfl
    simp only [databaseUrlOf, hset, hblank, orElse, if_true]
    rfl
  · have hnamed : stripped env "TURBOAUTH_DB_URL" ≠ [] := fun hblank => h ⟨hset, hblank⟩
    have hfirst : Text.stripped (valueOf env "TURBOAUTH_DB_URL") ≠ [] := hnamed
    simp only [databaseUrlOf, orElse, hset, hnamed, hfirst, if_false]
    rfl

namespace AlikeUpToBlanks

variable {env env' : Environment}

theorem stripped_eq (h : AlikeUpToBlanks env env') (name : String) (hname : name ∈ settingNames) :
    stripped env' name = stripped env name :=
  (h name hname).symm

theorem fileUrl_eq (h : AlikeUpToBlanks env env') : fileUrl env' = fileUrl env := by
  rw [fileUrl, fileUrl, h.stripped_eq "TURBOAUTH_DB_PATH" (by decide)]

/-- Only the address of the database can tell two environments apart that are alike. -/
theorem ofEnvironment_eq (h : AlikeUpToBlanks env env') :
    ofEnvironment env' = { ofEnvironment env with databaseUrl := databaseUrlOf env' } := by
  have hadmin := h.stripped_eq "TURBOAUTH_ADMIN_ADDRESS" (by decide)
  have hhost := h.stripped_eq "API_HOST" (by decide)
  have hport := h.stripped_eq "API_PORT" (by decide)
  have hpersist := h.stripped_eq "TURBOAUTH_PERSIST" (by decide)
  simp only [ofEnvironment, portOf, persistOf, hadmin, hhost, hport, hpersist]

private theorem databaseUrlOf_eq (h : AlikeUpToBlanks env env')
    (hblank : HasBlankUrl env' ↔ HasBlankUrl env) : databaseUrlOf env' = databaseUrlOf env := by
  have hfile := h.fileUrl_eq
  have hfirst := h.stripped_eq "TURBOAUTH_DB_URL" (by decide)
  have hsecond := h.stripped_eq "DATABASE_URL" (by decide)
  by_cases hurl : HasBlankUrl env
  · rw [databaseUrlOf_of_hasBlankUrl hurl, databaseUrlOf_of_hasBlankUrl (hblank.2 hurl), hfile]
  · have hurl' : ¬ HasBlankUrl env' := fun hother => hurl (hblank.1 hother)
    rw [databaseUrlOf_of_not_hasBlankUrl hurl, databaseUrlOf_of_not_hasBlankUrl hurl', hfile,
      hfirst, hsecond]

theorem ofEnvironment_eq_of_iff (h : AlikeUpToBlanks env env')
    (hblank : HasBlankUrl env' ↔ HasBlankUrl env) : ofEnvironment env' = ofEnvironment env := by
  rw [h.ofEnvironment_eq, h.databaseUrlOf_eq hblank]
  rfl

end AlikeUpToBlanks

/-- Environments that differ in the value of one name, by blanks around it at most. -/
structure DifferInBlanks (env env' : Environment) (name : Points) : Prop where
  others : ∀ other, name ≠ other → env'.get? other = env.get? other
  alike : Text.stripped ((env'.get? name).getD []) = Text.stripped ((env.get? name).getD [])

namespace DifferInBlanks

variable {env env' : Environment} {name : Points}

theorem alikeUpToBlanks (h : DifferInBlanks env env' name) : AlikeUpToBlanks env env' := by
  intro other _
  by_cases hother : name = Text.toPoints other
  · have halike := h.alike
    rw [hother] at halike
    exact halike.symm
  · have hsame := h.others _ hother
    simp only [stripped, valueOf, Environment.valueOf?, hsame]

private theorem hasBlankUrl_iff (h : DifferInBlanks env env' name)
    (hempty : name = Text.toPoints "TURBOAUTH_DB_URL" →
      ((env'.get? name).getD [] = [] ↔ (env.get? name).getD [] = [])) :
    HasBlankUrl env' ↔ HasBlankUrl env := by
  have hstripped := h.alikeUpToBlanks.stripped_eq "TURBOAUTH_DB_URL" (by decide)
  have hvalue : valueOf env' "TURBOAUTH_DB_URL" = [] ↔ valueOf env "TURBOAUTH_DB_URL" = [] := by
    by_cases hurl : name = Text.toPoints "TURBOAUTH_DB_URL"
    · rw [hurl] at hempty
      exact hempty rfl
    · have hsame := h.others _ hurl
      simp only [valueOf, Environment.valueOf?, hsame]
  rw [HasBlankUrl, HasBlankUrl, hstripped, ne_eq, ne_eq, hvalue]

end DifferInBlanks

private theorem differInBlanks_pad (env : Environment) (name : Points) {left right : Points}
    (hleft : ∀ point ∈ left, Text.isBlankPoint point = true)
    (hright : ∀ point ∈ right, Text.isBlankPoint point = true) :
    DifferInBlanks env (env.pad name left right) name where
  others := by
    intro other hother
    rw [Environment.pad, Environment.get?_set, if_neg hother]
  alike := by
    rw [Environment.pad, Environment.get?_set, if_pos rfl]
    exact Text.trimBy_padded hleft hright _

theorem differInBlanks_unset {env : Environment} {name : Points}
    (h : Text.stripped ((env.get? name).getD []) = []) :
    DifferInBlanks env (env.unset name) name where
  others := by
    intro other hother
    rw [Environment.get?_unset, if_neg hother]
  alike := by
    rw [Environment.get?_unset, if_pos rfl, h]
    rfl

/-- The configuration of an environment to which the file next to the service was added. -/
def onDisk (disk : Disk) (env : Environment) : Except Failure Configuration :=
  (Startup.environmentOn disk env).map ofEnvironment

theorem onDisk_of_none {disk : Disk} (h : disk.get? Startup.environmentFile = none)
    (env : Environment) : onDisk disk env = .ok (ofEnvironment env) := by
  have htext : Startup.environmentText disk = .ok none := by rw [Startup.environmentText, h]
  have henv : Startup.environmentOn disk env = .ok env := by
    rw [Startup.environmentOn, htext]
    cases env.isSwitchedOff <;> rfl
  rw [onDisk, henv]
  rfl

/-- Blanks around values, and blank values, do not show in a configuration, unless blanks take the
place of an empty first address of a database, or the other way round. Then only the address of the
database can change, because a first address of blanks keeps the second one from being used. -/
theorem configuration_ignores_blanks {disk : Disk}
    (hfile : disk.get? Startup.environmentFile = none) :
    (∀ env env', AlikeUpToBlanks env env' →
      ∃ c url, onDisk disk env = .ok c ∧ onDisk disk env' = .ok { c with databaseUrl := url } ∧
        ((HasBlankUrl env' ↔ HasBlankUrl env) → onDisk disk env' = .ok c)) ∧
      (∀ env name left right, (∀ point ∈ left, Text.isBlankPoint point = true) →
        (∀ point ∈ right, Text.isBlankPoint point = true) →
        AlikeUpToBlanks env (env.pad name left right) ∧
          ((name = Text.toPoints "TURBOAUTH_DB_URL" → (env.get? name).getD [] ≠ []) →
            onDisk disk (env.pad name left right) = onDisk disk env)) ∧
      (∀ env name, Text.stripped ((env.get? name).getD []) = [] →
        AlikeUpToBlanks env (env.unset name) ∧
          ((name = Text.toPoints "TURBOAUTH_DB_URL" → (env.get? name).getD [] = []) →
            onDisk disk (env.unset name) = onDisk disk env)) ∧
      ∀ env, ∃ c, onDisk disk env = .ok c ∧
        (HasBlankUrl env → c.databaseUrl = fileUrl env) ∧
        (¬ HasBlankUrl env → c.databaseUrl = orElse (stripped env "TURBOAUTH_DB_URL")
          (orElse (stripped env "DATABASE_URL") (fileUrl env))) := by
  have hread := onDisk_of_none hfile
  refine ⟨?_, ?_, ?_, ?_⟩
  · intro env env' halike
    refine ⟨_, databaseUrlOf env', hread env, ?_, ?_⟩
    · rw [hread, halike.ofEnvironment_eq]
    · intro hblank
      rw [hread, halike.ofEnvironment_eq_of_iff hblank]
  · intro env name left right hleft hright
    have hdiffer := differInBlanks_pad env name hleft hright
    refine ⟨hdiffer.alikeUpToBlanks, fun hset => ?_⟩
    have hblank := hdiffer.hasBlankUrl_iff (fun hname => by
      have hvalue := hset hname
      simp [Environment.pad, Environment.get?_set, hvalue])
    rw [hread, hread, hdiffer.alikeUpToBlanks.ofEnvironment_eq_of_iff hblank]
  · intro env name hstripped
    have hdiffer := differInBlanks_unset hstripped
    refine ⟨hdiffer.alikeUpToBlanks, fun hempty => ?_⟩
    have hblank := hdiffer.hasBlankUrl_iff (fun hname => by
      simp [Environment.get?_unset, hempty hname])
    rw [hread, hread, hdiffer.alikeUpToBlanks.ofEnvironment_eq_of_iff hblank]
  · intro env
    exact ⟨_, hread env, databaseUrlOf_of_hasBlankUrl, databaseUrlOf_of_not_hasBlankUrl⟩

def spaced : Environment :=
  [(Text.toPoints "API_PORT", Text.toPoints " 80\t"), (Text.toPoints "API_HOST", [0x2003]),
    (Text.toPoints "DATABASE_URL", Text.toPoints "sqlite:///other.db ")]

def tidy : Environment :=
  [(Text.toPoints "API_PORT", Text.toPoints "80"),
    (Text.toPoints "DATABASE_URL", Text.toPoints "sqlite:///other.db")]

theorem configuration_ignores_blanks_spaced : onDisk [] tidy = onDisk [] spaced := by
  have halike : AlikeUpToBlanks spaced tidy := by
    unfold AlikeUpToBlanks
    decide +kernel
  have hurl : HasBlankUrl tidy ↔ HasBlankUrl spaced := by
    unfold HasBlankUrl
    decide +kernel
  have hfile : Disk.get? [] Startup.environmentFile = none := rfl
  obtain ⟨hpairs, -⟩ := configuration_ignores_blanks hfile
  obtain ⟨c, -, hspaced, -, hsame⟩ := hpairs spaced tidy halike
  rw [hspaced, hsame hurl]

def blocked : Environment :=
  [(Text.toPoints "TURBOAUTH_DB_URL", Text.toPoints " "),
    (Text.toPoints "DATABASE_URL", Text.toPoints "sqlite:///other.db")]

/-- A blank address of a database does not always count as unset. -/
theorem blank_url_hides_second :
    let cleared := blocked.unset (Text.toPoints "TURBOAUTH_DB_URL")
    AlikeUpToBlanks blocked cleared ∧
      (onDisk [] blocked).map (·.databaseUrl) = .ok (Text.toPoints "sqlite:///turboauth.db") ∧
      (onDisk [] cleared).map (·.databaseUrl) = .ok (Text.toPoints "sqlite:///other.db") := by
  have hfile : databaseUrlOf blocked = Text.toPoints "sqlite:///turboauth.db" := by decide +kernel
  have hother : databaseUrlOf (blocked.unset (Text.toPoints "TURBOAUTH_DB_URL")) =
      Text.toPoints "sqlite:///other.db" := by decide +kernel
  refine ⟨(differInBlanks_unset (by decide +kernel)).alikeUpToBlanks, ?_, ?_⟩
  · rw [onDisk_of_none rfl, ← hfile]
    rfl
  · rw [onDisk_of_none rfl, ← hother]
    rfl

end Configuration
end WalletTrust
