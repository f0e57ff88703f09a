import WalletTrust.Environment.Access
import WalletTrust.Proofs.Environment.File
import WalletTrust.Proofs.Text.Raw

/-!
# Loading a file twice

Loading a file keeps what is present and adds what the file assigns. Which names it adds depends on
the names that are present and not on their values, although values refer to each other. So a second
load finds nothing to add.
-/

namespace WalletTrust.Environment

open Text (toPoints Held)

/-- An environment as a system keeps it: there is no equals sign in a name, and values have bytes,
none of which is zero. -/
structure WellFormed (env : Environment) : Prop where
  names : ∀ entry ∈ env, 0x3d ∉ entry.1
  values : ∀ entry ∈ env, Held entry.2

namespace WellFormed

variable {env : Environment} {name : Text.Points}

theorem held (h : env.WellFormed) {v : Text.Points} (hv : env.get? name = some v) : Held v := by
  obtain ⟨entry, hentry, rfl⟩ := Option.map_eq_some_iff.1 hv
  exact h.values entry (List.mem_of_find?_eq_some hentry)

theorem get?_eq_none (h : env.WellFormed) (hname : 0x3d ∈ name) : env.get? name = none := by
  rw [get?, Option.map_eq_none_iff, List.find?_eq_none]
  intro entry hentry heq
  rw [beq_iff_eq] at heq
  exact h.names entry hentry (heq ▸ hname)

theorem set (h : env.WellFormed) {v : Text.Points} (hname : 0x3d ∉ name) (hv : Held v) :
    (env.set name v).WellFormed where
  names := List.forall_mem_cons.2 ⟨hname, h.names⟩
  values := List.forall_mem_cons.2 ⟨hv, h.values⟩

end WellFormed

/-! ## What an environment keeps -/

theorem kept_toPoints (s : String) : kept (toPoints s) = .ok (toPoints s) := by
  rw [kept, Text.bytesOf?_toPoints]
  exact congrArg Except.ok (Text.ofBytes_utf8 s)

theorem exists_kept {v : Text.Points} (h : Held v) : ∃ v', kept v = .ok v' ∧ Held v' := by
  obtain ⟨bytes, hbytes, hproper⟩ := Text.exists_bytesOf? h
  refine ⟨Text.ofBytes bytes, ?_, Text.held_ofBytesFrom hproper 0⟩
  rw [kept, hbytes]

theorem not_mem_zero {v : Text.Points} (h : Held v) : v.contains 0 = false := by
  rw [← Bool.not_eq_true, List.contains_iff_mem]
  exact fun hzero => absurd (h 0 hzero).pos (by decide)

theorem held_toPoints {s : String} (h : File.Clean s.toList) : Held (toPoints s) := by
  intro point hpoint
  obtain ⟨c, hc, rfl⟩ := List.mem_map.1 hpoint
  exact Text.isHeld_toNat (h c hc)

theorem mem_toPoints_iff {s : String} : 0x3d ∈ toPoints s ↔ '=' ∈ s.toList := by
  refine ⟨fun h => ?_, fun h => List.mem_map.2 ⟨'=', h, rfl⟩⟩
  obtain ⟨c, hc, heq⟩ := List.mem_map.1 h
  have hchar : c = '=' := by rw [← Char.ofNat_toNat c, heq]
  rwa [← hchar]

/-- A name that has an equals sign can have no value, and every other name of a file can. -/
theorem define_toPoints {s : String} (hne : s.toList ≠ []) (hclean : File.Clean s.toList)
    {v : Text.Points} (hv : Held v) (env : Environment) :
    ('=' ∈ s.toList → env.define (toPoints s) v = .error .badVariable) ∧
      ('=' ∉ s.toList → ∃ v', Held v' ∧
        env.define (toPoints s) v = .ok (env.set (toPoints s) v')) := by
  obtain ⟨v', hkept, hv'⟩ := exists_kept hv
  have hzero : ((toPoints s).contains 0 || v'.contains 0) = false := by
    rw [not_mem_zero (held_toPoints hclean), not_mem_zero hv']
    rfl
  have hempty : (toPoints s).isEmpty = false := by
    simpa [toPoints] using hne
  have hdefine : env.define (toPoints s) v =
      if (toPoints s).contains 0x3d then .error .badVariable
      else .ok (env.set (toPoints s) v') := by
    simp only [define, kept_toPoints, hkept, bind, Except.bind, hzero, hempty]
    rfl
  rw [hdefine]
  refine ⟨fun h => ?_, fun h => ⟨v', hv', ?_⟩⟩
  · rw [if_pos (List.contains_iff_mem.2 (mem_toPoints_iff.2 h))]
  · rw [if_neg fun hmem => h (mem_toPoints_iff.1 (List.contains_iff_mem.1 hmem))]

/-! ## Values of a file -/

private theorem clean_reference? {s : List Char} {name default : String} {length : Nat}
    (h : File.Clean s) (href : reference? s = some (name, default, length)) :
    File.Clean default.toList := by
  have hdrop := h.drop (s.takeWhile fun c => c != '\x7d' && c != ':').length
  unfold reference? at href
  simp only at href
  split at href
  · cases href
    exact .nil
  · rename_i rest heq
    rw [heq] at hdrop
    split at href
    · cases href
    · cases href
      rw [String.toList_ofList]
      exact hdrop.tail.tail.takeWhile _
  · cases href

private theorem held_expandFrom {lookup : String → String → Text.Points}
    (hlookup : ∀ name default, File.Clean default.toList → Held (lookup name default))
    {s : List Char} (hs : File.Clean s) (skip : Nat) : Held (expandFrom lookup skip s) := by
  induction s generalizing skip with
  | nil => cases skip <;> nofun
  | cons c s ih =>
    cases skip with
    | succ skip => exact ih hs.tail skip
    | zero =>
      rw [expandFrom]
      split
      · rename_i name default length href
        split at href
        · have htail : File.Clean s.tail := by
            rw [← List.drop_one]
            exact hs.tail.drop 1
          have hdefault := clean_reference? htail href
          exact List.forall_mem_append.2 ⟨hlookup name default hdefault, ih hs.tail _⟩
        · cases href
      · exact List.forall_mem_cons.2 ⟨Text.isHeld_toNat hs.head, ih hs.tail 0⟩

/-- Values of which all that are there have bytes. -/
def HeldValues (values : Values) : Prop := ∀ entry ∈ values, ∀ v, entry.2 = some v → Held v

theorem HeldValues.held {values : Values} (h : HeldValues values) {name : String}
    {v : Text.Points} (hv : values.get? name = some (some v)) : Held v := by
  obtain ⟨entry, hentry, heq⟩ := Option.map_eq_some_iff.1 hv
  exact h entry (List.mem_of_find?_eq_some hentry) v heq

private theorem held_resolve {env : Environment} (henv : env.WellFormed) {values : Values}
    (hvalues : HeldValues values) (name default : String) (hdefault : File.Clean default.toList) :
    Held (resolve env values name default) := by
  unfold resolve
  split
  · rename_i v hv
    exact henv.held hv
  · split
    · rename_i v hv
      cases v with
      | none => nofun
      | some v => exact hvalues.held hv
    · exact held_toPoints hdefault

private theorem heldValues_valuesOf {env : Environment} (henv : env.WellFormed)
    {bindings : List File.Binding} (hbindings : ∀ b ∈ bindings, File.IsSound b) {values : Values}
    (hvalues : HeldValues values) : HeldValues (valuesOf env values bindings) := by
  induction bindings generalizing values with
  | nil => exact hvalues
  | cons b bindings ih =>
    obtain ⟨hb, hrest⟩ := List.forall_mem_cons.1 hbindings
    refine ih hrest (List.forall_mem_cons.2 ⟨?_, hvalues⟩)
    rintro v hv
    obtain ⟨text, htext, rfl⟩ := Option.map_eq_some_iff.1 hv
    exact held_expandFrom (held_resolve henv hvalues) (hb.value text htext) 0

/-- Whether the last line about a name gives it a value. -/
def File.assigns (text name : String) : Bool :=
  ((File.bindings text).reverse.find? (·.1 == name)).any (·.2.isSome)

/-- A name of the file, and whether a line gives it a value. -/
def outline {α : Type} (entry : String × Option α) : String × Bool := (entry.1, entry.2.isSome)

private theorem map_outline_valuesOf (env : Environment) (values : Values)
    (bindings : List File.Binding) :
    (valuesOf env values bindings).map outline =
      (bindings.map outline).reverse ++ values.map outline := by
  induction bindings generalizing values with
  | nil => rfl
  | cons b bindings ih =>
    rw [valuesOf, ih, List.map_cons, List.map_cons, List.reverse_cons, List.append_assoc]
    simp [outline]

theorem find?_map_outline {α : Type} (entries : List (String × Option α)) (name : String) :
    (entries.map outline).find? (·.1 == name) = (entries.find? (·.1 == name)).map outline := by
  rw [List.find?_map]
  rfl

/-- Which names have values does not depend on the environment. -/
theorem get?_valuesOf (env : Environment) (text name : String) :
    (∃ v, (valuesOf env [] (File.bindings text)).get? name = some (some v)) ↔
      File.assigns text name = true := by
  have hfind : ((valuesOf env [] (File.bindings text)).find? (·.1 == name)).map outline =
      ((File.bindings text).reverse.find? (·.1 == name)).map outline := by
    rw [← find?_map_outline, ← find?_map_outline, map_outline_valuesOf, List.map_nil,
      List.append_nil, List.map_reverse]
  rw [File.assigns, Values.get?]
  cases hvalue : (valuesOf env [] (File.bindings text)).find? (·.1 == name) with
  | none =>
    rw [hvalue] at hfind
    rw [Option.map_eq_none_iff.1 hfind.symm]
    simp
  | some entry =>
    rw [hvalue] at hfind
    obtain ⟨b, hb, hsame⟩ := Option.map_eq_some_iff.1 hfind.symm
    have hsome : b.2.isSome = entry.2.isSome := congrArg Prod.snd hsame
    rw [hb, Option.map_some, Option.any_some, hsome, Option.isSome_iff_exists]
    simp

theorem mem_namesOf {bindings : List File.Binding} {name : String} :
    name ∈ namesOf bindings ↔ ∃ b ∈ bindings, b.1 = name := by
  rw [namesOf, List.mem_eraseDups, List.mem_map]

theorem mem_namesOf_of_assigns {text name : String} (h : File.assigns text name = true) :
    name ∈ namesOf (File.bindings text) := by
  obtain ⟨b, hb, -⟩ := (Option.any_eq_true _ _).1 h
  have hname : b.1 = name := by simpa using List.find?_some hb
  exact mem_namesOf.2 ⟨b, List.mem_reverse.1 (List.mem_of_find?_eq_some hb), hname⟩

theorem clean_of_mem_namesOf {text : String} (htext : File.Clean text.toList) {name : String}
    (h : name ∈ namesOf (File.bindings text)) : name.toList ≠ [] ∧ File.Clean name.toList := by
  obtain ⟨b, hb, rfl⟩ := mem_namesOf.1 h
  have hsound := File.isSound_bindings htext b hb
  exact ⟨hsound.name_ne_nil, hsound.name⟩

/-! ## One name -/

/-- Values that a file gives to its names, in some environment. -/
structure AreValues (text : String) (values : Values) : Prop where
  assigned : ∀ name, (∃ v, values.get? name = some (some v)) ↔ File.assigns text name = true
  held : HeldValues values

theorem areValues_valuesOf {env : Environment} (henv : env.WellFormed) {text : String}
    (htext : File.Clean text.toList) : AreValues text (valuesOf env [] (File.bindings text)) where
  assigned := get?_valuesOf env text
  held := heldValues_valuesOf henv (File.isSound_bindings htext) nofun

/-- Nothing changed but that names which a file assigns were added. -/
structure Grown (text : String) (env next : Environment) : Prop where
  kept : ∀ name v, env.get? name = some v → next.get? name = some v
  added : ∀ name, env.get? name = none → next.get? name ≠ none →
    ∃ s, File.assigns text s = true ∧ name = toPoints s

namespace Grown

variable {text : String} {env next last : Environment}

theorem refl (text : String) (env : Environment) : Grown text env env where
  kept _ _ h := h
  added _ hnone hsome := absurd hnone hsome

theorem trans (h : Grown text env next) (h' : Grown text next last) : Grown text env last where
  kept name v hv := h'.kept name v (h.kept name v hv)
  added name hnone hsome := by
    by_cases hnext : next.get? name = none
    · exact h'.added name hnext hsome
    · exact h.added name hnone hnext

theorem isSome (h : Grown text env next) {name : Text.Points} (hname : (env.get? name).isSome) :
    (next.get? name).isSome := by
  obtain ⟨v, hv⟩ := Option.isSome_iff_exists.1 hname
  rw [h.kept name v hv]
  rfl

theorem set {s : String} (hnone : env.get? (toPoints s) = none) (hs : File.assigns text s = true)
    (v : Text.Points) : Grown text env (env.set (toPoints s) v) where
  kept name w hw := by
    rw [get?_set, if_neg fun heq => ?_]
    · exact hw
    · rw [heq, hw] at hnone
      cases hnone
  added name hname hsome := by
    refine ⟨s, hs, ?_⟩
    rw [get?_set] at hsome
    split at hsome
    · exact Eq.symm ‹_›
    · exact absurd hname hsome

end Grown

/-- Whether a file gives a value to a name that can have none. -/
def File.misassigns (text name : String) : Bool :=
  File.assigns text name && name.toList.contains '='

section Adopt

variable {text name : String} {values : Values} {env : Environment}

private theorem adopt_of_not_assigns (hvalues : AreValues text values)
    (h : File.assigns text name = false) : env.adopt values name = .ok env := by
  unfold adopt
  split
  · rename_i v hv
    rw [(hvalues.assigned name).1 ⟨v, hv⟩] at h
    cases h
  · rfl

theorem adopt_of_assigns (env : Environment) (hvalues : AreValues text values)
    (h : File.assigns text name = true) :
    ∃ v, Held v ∧ env.adopt values name = env.defineAbsent (toPoints name) v := by
  obtain ⟨v, hv⟩ := (hvalues.assigned name).2 h
  refine ⟨v, hvalues.held.held hv, ?_⟩
  rw [adopt, hv]

/-- A name that has a value keeps it. -/
theorem adopt_of_isSome (hvalues : AreValues text values)
    (h : File.assigns text name = true → (env.get? (toPoints name)).isSome) :
    env.adopt values name = .ok env := by
  cases hassigns : File.assigns text name with
  | false => exact adopt_of_not_assigns hvalues hassigns
  | true =>
    obtain ⟨v, -, hadopt⟩ := adopt_of_assigns env hvalues hassigns
    rw [hadopt, defineAbsent, if_pos (h hassigns)]

theorem adopt_of_misassigns (henv : env.WellFormed) (hvalues : AreValues text values)
    (hname : name.toList ≠ [] ∧ File.Clean name.toList)
    (h : File.misassigns text name = true) : env.adopt values name = .error .badVariable := by
  rw [File.misassigns, Bool.and_eq_true, List.contains_iff_mem] at h
  obtain ⟨hassigns, hequals⟩ := h
  obtain ⟨v, hv, hadopt⟩ := adopt_of_assigns env hvalues hassigns
  have hnone := henv.get?_eq_none (mem_toPoints_iff.2 hequals)
  rw [hadopt, defineAbsent, hnone]
  exact (define_toPoints hname.1 hname.2 hv env).1 hequals

/-- A step of loading: a name that can have its value has one afterwards. -/
theorem exists_adopt (henv : env.WellFormed) (hvalues : AreValues text values)
    (hname : name.toList ≠ [] ∧ File.Clean name.toList)
    (h : File.misassigns text name = false) :
    ∃ next, env.adopt values name = .ok next ∧ Grown text env next ∧ next.WellFormed ∧
      (File.assigns text name = true → (next.get? (toPoints name)).isSome) := by
  by_cases hpresent : File.assigns text name = true → (env.get? (toPoints name)).isSome
  · exact ⟨env, adopt_of_isSome hvalues hpresent, .refl text env, henv, hpresent⟩
  · obtain ⟨hassigns, habsent⟩ := Classical.not_imp.1 hpresent
    have hnone : env.get? (toPoints name) = none := by simpa using habsent
    have hequals : '=' ∉ name.toList := by
      rw [File.misassigns, hassigns, Bool.true_and, ← Bool.not_eq_true, List.contains_iff_mem] at h
      exact h
    obtain ⟨v, hv, hadopt⟩ := adopt_of_assigns env hvalues hassigns
    obtain ⟨v', hv', hdefine⟩ := (define_toPoints hname.1 hname.2 hv env).2 hequals
    refine ⟨env.set (toPoints name) v', ?_, .set hnone hassigns v',
      henv.set (fun hmem => hequals (mem_toPoints_iff.1 hmem)) hv', fun _ => ?_⟩
    · rw [hadopt, defineAbsent, hnone]
      exact hdefine
    · rw [get?_set, if_pos rfl]
      rfl

end Adopt

/-! ## All names -/

/-- Names up to the first that a file gives a value to although it can have none. -/
def adopted (text : String) (names : List String) : List String :=
  names.takeWhile fun name => !File.misassigns text name

def verdict (text : String) (names : List String) : Except Failure Unit :=
  if names.any (File.misassigns text) then .error .badVariable else .ok ()

section AdoptAll

variable {text : String} {values : Values} {names : List String} {env : Environment}

/-- A run of steps: names are added up to the first that can have no value. -/
theorem exists_adoptAll (henv : env.WellFormed) (hvalues : AreValues text values)
    (hnames : ∀ name ∈ names, name.toList ≠ [] ∧ File.Clean name.toList) :
    ∃ next, Access.adoptAll values names env = (verdict text names, next) ∧
      Grown text env next ∧ next.WellFormed ∧ ∀ name ∈ adopted text names,
        File.assigns text name = true → (next.get? (toPoints name)).isSome := by
  induction names generalizing env with
  | nil => exact ⟨env, rfl, .refl text env, henv, by simp [adopted]⟩
  | cons name names ih =>
    obtain ⟨hname, hrest⟩ := List.forall_mem_cons.1 hnames
    cases hmis : File.misassigns text name with
    | true =>
      have hadopt := adopt_of_misassigns henv hvalues hname hmis
      refine ⟨env, ?_, .refl text env, henv, ?_⟩
      · rw [Access.adoptAll_cons_of_error hadopt, verdict, List.any_cons, hmis]
        rfl
      · simp [adopted, hmis]
    | false =>
      obtain ⟨next, hadopt, hgrown, hnext, hpresent⟩ := exists_adopt henv hvalues hname hmis
      obtain ⟨last, hall, hlast, hwell, hothers⟩ := ih hnext hrest
      refine ⟨last, ?_, hgrown.trans hlast, hwell, ?_⟩
      · rw [Access.adoptAll_cons_of_ok hadopt, hall, verdict, verdict, List.any_cons, hmis,
          Bool.false_or]
      · rw [adopted, List.takeWhile_cons, hmis]
        exact List.forall_mem_cons.2 ⟨fun h => hlast.isSome (hpresent h), hothers⟩

/-- Another run adds nothing, whatever the values are now. -/
theorem adoptAll_of_present (henv : env.WellFormed) (hvalues : AreValues text values)
    (hnames : ∀ name ∈ names, name.toList ≠ [] ∧ File.Clean name.toList)
    (hpresent : ∀ name ∈ adopted text names,
      File.assigns text name = true → (env.get? (toPoints name)).isSome) :
    Access.adoptAll values names env = (verdict text names, env) := by
  induction names with
  | nil => rfl
  | cons name names ih =>
    obtain ⟨hname, hrest⟩ := List.forall_mem_cons.1 hnames
    rw [adopted, List.takeWhile_cons] at hpresent
    cases hmis : File.misassigns text name with
    | true =>
      have hadopt := adopt_of_misassigns henv hvalues hname hmis
      rw [Access.adoptAll_cons_of_error hadopt, verdict, List.any_cons, hmis]
      rfl
    | false =>
      rw [hmis] at hpresent
      obtain ⟨hfirst, hothers⟩ := List.forall_mem_cons.1 hpresent
      have hadopt := adopt_of_isSome hvalues hfirst
      rw [Access.adoptAll_cons_of_ok hadopt, ih hrest hothers, verdict, verdict, List.any_cons,
        hmis, Bool.false_or]

end AdoptAll

private theorem verdict_eq_ok_iff {text : String} :
    verdict text (namesOf (File.bindings text)) = .ok () ↔
      ∀ name, File.assigns text name = true → '=' ∉ name.toList := by
  have hany : (namesOf (File.bindings text)).any (File.misassigns text) = false ↔
      ∀ name, File.assigns text name = true → '=' ∉ name.toList := by
    rw [List.any_eq_false]
    refine ⟨fun h name hassigns hequals => ?_, fun h name hname hmis => ?_⟩
    · refine h name (mem_namesOf_of_assigns hassigns) ?_
      rw [File.misassigns, hassigns, List.contains_iff_mem.2 hequals]
      rfl
    · rw [File.misassigns, Bool.and_eq_true, List.contains_iff_mem] at hmis
      exact h name hmis.1 hmis.2
  rw [← hany, verdict]
  cases (namesOf (File.bindings text)).any (File.misassigns text) <;> simp

theorem load_of_switchedOff {env : Environment} (h : env.isSwitchedOff = true)
    (file? : Option String) : Access.load file? env = (.ok (), env) := by
  cases file? with
  | none => rfl
  | some text => rw [Access.load, if_pos h]

private theorem load_of_not_switchedOff {env : Environment} (h : env.isSwitchedOff = false)
    (text : String) :
    Access.load (some text) env =
      Access.adoptAll (valuesOf env [] (File.bindings text))
        (namesOf (File.bindings text)) env := by
  rw [Access.load, if_neg (by simp [h])]

/-- Loading a file keeps what is present, and loading it again changes nothing, even if a name stops
it. It is stopped only by a name that can have no value, unless it is switched off. -/
theorem exists_load {text : String} (htext : File.Clean text.toList) {env : Environment}
    (henv : env.WellFormed) :
    ∃ answer next, Access.load (some text) env = (answer, next) ∧ Grown text env next ∧
      (answer = .ok () ↔ env.isSwitchedOff = true ∨
        ∀ name, File.assigns text name = true → '=' ∉ name.toList) ∧
      (Access.load (some text) next).2 = next ∧
      (answer = .ok () → Access.load (some text) next = (.ok (), next)) := by
  cases hoff : env.isSwitchedOff with
  | true =>
    have hload := load_of_switchedOff hoff (some text)
    exact ⟨.ok (), env, hload, .refl text env, by simp, by rw [hload], fun _ => hload⟩
  | false =>
    have hnames : ∀ name ∈ namesOf (File.bindings text),
        name.toList ≠ [] ∧ File.Clean name.toList := fun _ => clean_of_mem_namesOf htext
    obtain ⟨next, hall, hgrown, hnext, hpresent⟩ :=
      exists_adoptAll henv (areValues_valuesOf henv htext) hnames
    refine ⟨verdict text (namesOf (File.bindings text)), next, ?_, hgrown, ?_, ?_⟩
    · rw [load_of_not_switchedOff hoff, hall]
    · rw [verdict_eq_ok_iff]
      simp
    · cases hagain : next.isSwitchedOff with
      | true =>
        have hload := load_of_switchedOff hagain (some text)
        exact ⟨by rw [hload], fun _ => hload⟩
      | false =>
        rw [load_of_not_switchedOff hagain, adoptAll_of_present hnext
          (areValues_valuesOf hnext htext) hnames hpresent]
        exact ⟨rfl, fun h => by rw [h]⟩

end WalletTrust.Environment
