import Mathlib.Data.Set.Insert
import WalletTrust.Proofs.Authority.GuardedCall
import WalletTrust.Proofs.Registry.Reachable

/-!
# Callers without influence

Where only the administrator may change a registry, callers who do not have the administration and
are not given it cannot influence anything: leaving out their calls changes neither the host nor the
answers to the others. The administration passes on only from hand to hand.
-/

namespace WalletTrust

namespace Registry

private theorem admin_put (r : Registry) (w : Write) :
    (r.put w).admin = r.admin ∨ w = .admin (r.put w).admin := by
  cases w with
  | record wallet status score now => exact .inl rfl
  | next address => exact .inl rfl
  | admin address => exact .inr rfl

private theorem transfer_of_write {c : Call} {address : String}
    (h : c.write? = some (.admin address)) :
    c.command = .transferAdmin (.text address) ∧ c.answer = .ok true := by
  have hanswer : c.answer = .ok true := by
    rw [Call.answer, Call.stalls_of_write h, h]
    rfl
  cases Call.writes_of_write? h with
  | admin haddress => exact ⟨rfl, hanswer⟩

end Registry

/-- A call that gives the administration of a host to somebody: its caller has it at that time. -/
def GuardedCall.HandsOver (c : GuardedCall) (h : Host) (address : String) : Prop :=
  c.caller = .text h.registry.admin ∧ c.command = .transferAdmin (.text address) ∧
    (h.callAs c).2 = .ok true

/-- Callers without the administration of a well-formed registry. -/
structure Host.Excludes (h : Host) (S : Set Value) : Prop where
  wellFormed : h.registry.WellFormed
  admin : .text h.registry.admin ∉ S

namespace Host

theorem admin_callAs {h : Host} (hr : h.registry.WellFormed) {c : GuardedCall}
    (hcaller : IsCaller c.caller) :
    (h.callAs c).1.registry.admin = h.registry.admin ∨
      c.HandsOver h (h.callAs c).1.registry.admin := by
  by_cases hc : c.caller = .text h.registry.admin
  · have hcall := callAs_admin hr.admin hc
    cases hw : c.call.write? with
    | none =>
      rw [hcall, call_of_no_write hw]
      exact .inl rfl
    | some w =>
      have hafter : (h.callAs c).1.registry = h.registry.put w := by rw [hcall, call_of_write hw]
      rw [hafter]
      rcases h.registry.admin_put w with hsame | hnew
      · exact .inl hsame
      · rw [hnew] at hw
        obtain ⟨hcommand, hanswer⟩ := Registry.transfer_of_write hw
        refine .inr ⟨hc, hcommand, ?_⟩
        rw [hcall, call_answer]
        exact hanswer
  · rw [callAs_stranger hr.admin hcaller hc]
    exact .inl rfl

variable {S : Set Value}

theorem Excludes.callAs_member {h : Host} (hS : h.Excludes S) {c : GuardedCall}
    (hcaller : IsCaller c.caller) (hc : c.caller ∈ S) : h.callAs c = (h, .error c.refusal) := by
  have hne : c.caller ≠ .text h.registry.admin := by
    intro heq
    exact hS.admin (heq ▸ hc)
  exact callAs_stranger hS.wellFormed.admin hcaller hne

/-- The administration stays with others as long as these give it to others. -/
theorem Excludes.callAs {h : Host} (hS : h.Excludes S) {c : GuardedCall}
    (hcaller : IsCaller c.caller)
    (htransfer : c.caller ∉ S → ∀ a ∈ S, c.command ≠ .transferAdmin a) :
    (h.callAs c).1.Excludes S := by
  by_cases hc : c.caller ∈ S
  · rwa [hS.callAs_member hcaller hc]
  · refine ⟨wellFormed_callAs hS.wellFormed hcaller, ?_⟩
    rcases admin_callAs hS.wellFormed hcaller with hsame | ⟨-, hcommand, -⟩
    · rw [hsame]
      exact hS.admin
    · intro hmem
      exact htransfer hc _ hmem hcommand

theorem wellFormed_after {h : Host} (hr : h.registry.WellFormed) {calls : List GuardedCall}
    (hcallers : ∀ c ∈ calls, IsCaller c.caller) :
    (Run.after Host.callAs h calls).registry.WellFormed := by
  refine Run.after_invariant Host.callAs (P := fun h => h.registry.WellFormed) ?_ hr
  intro h c hc hr
  exact wellFormed_callAs hr (hcallers c hc)

variable [DecidablePred (· ∈ S)]

/-- A run and the run without the calls of excluded callers. -/
theorem Excludes.run {h : Host} (hS : h.Excludes S) {calls : List GuardedCall}
    (hcallers : ∀ c ∈ calls, IsCaller c.caller)
    (htransfers : ∀ c ∈ calls, c.caller ∉ S → ∀ a ∈ S, c.command ≠ .transferAdmin a) :
    let others := calls.filter (·.caller ∉ S)
    let transcript := Run.transcript Host.callAs h calls
    (∀ p ∈ transcript, p.1.caller ∈ S → p.2 = .error p.1.refusal) ∧
      Run.after Host.callAs h others = Run.after Host.callAs h calls ∧
      Run.transcript Host.callAs h others = transcript.filter (·.1.caller ∉ S) := by
  induction calls generalizing h with
  | nil => simp
  | cons c calls ih =>
    have hcaller := hcallers c List.mem_cons_self
    have hnext := hS.callAs hcaller (htransfers c List.mem_cons_self)
    obtain ⟨hrefused, hafter, htranscript⟩ := ih hnext
      (fun c' hc' => hcallers c' (List.mem_cons_of_mem c hc'))
      (fun c' hc' => htransfers c' (List.mem_cons_of_mem c hc'))
    by_cases hc : c.caller ∈ S
    · have hstep := hS.callAs_member hcaller hc
      rw [hstep] at hrefused hafter htranscript
      refine ⟨?_, ?_, ?_⟩
      · intro p hp hmem
        rw [Run.transcript_cons, hstep] at hp
        rcases List.mem_cons.1 hp with rfl | hp
        · rfl
        · exact hrefused p hp hmem
      · simpa [hc, hstep] using hafter
      · simpa [hc, hstep] using htranscript
    · refine ⟨?_, ?_, ?_⟩
      · intro p hp hmem
        rw [Run.transcript_cons] at hp
        rcases List.mem_cons.1 hp with rfl | hp
        · exact absurd hmem hc
        · exact hrefused p hp hmem
      · simpa [hc] using hafter
      · simpa [hc] using htranscript

/-- Whoever has the administration after a run had it before or was handed it. -/
theorem admin_after {h : Host} (hr : h.registry.WellFormed) {calls : List GuardedCall}
    (hcallers : ∀ c ∈ calls, IsCaller c.caller) :
    let admin := (Run.after Host.callAs h calls).registry.admin
    admin = h.registry.admin ∨ ∃ earlier c later, calls = earlier ++ c :: later ∧
      c.HandsOver (Run.after Host.callAs h earlier) admin := by
  induction calls using List.reverseRecOn with
  | nil => exact .inl rfl
  | append_singleton calls c ih =>
    have hearlier : ∀ c' ∈ calls, IsCaller c'.caller := by
      intro c' hc'
      exact hcallers c' (List.mem_append_left [c] hc')
    have hcaller : IsCaller c.caller := hcallers c (by simp)
    rw [Run.after_append, Run.after_cons, Run.after_nil]
    rcases admin_callAs (wellFormed_after hr hearlier) hcaller with hsame | hnew
    · rw [hsame]
      rcases ih hearlier with hfirst | ⟨earlier, c', later, rfl, hover⟩
      · exact .inl hfirst
      · exact .inr ⟨earlier, c', later ++ [c], by simp, hover⟩
    · exact .inr ⟨calls, c, [], rfl, hnew⟩

end Host

/-- Callers who are not the administrator, and whom nobody else makes it, are refused whatever they
call for. Without their calls, the host ends up the same and answers the others the same. At every
point of the run, the administrator is the first one or was made it by the one before. -/
theorem strangers_have_no_influence {r : Registry} (hr : r.Reachable) (observer : Observer)
    {S : Set Value} [DecidablePred (· ∈ S)] (hS : .text r.admin ∉ S) {calls : List GuardedCall}
    (hcallers : ∀ c ∈ calls, IsCaller c.caller)
    (htransfers : ∀ c ∈ calls, c.caller ∉ S → ∀ a ∈ S, c.command ≠ .transferAdmin a) :
    let h : Host := ⟨r, observer⟩
    let others := calls.filter (·.caller ∉ S)
    let transcript := Run.transcript Host.callAs h calls
    (∀ p ∈ transcript, p.1.caller ∈ S → p.2 = .error p.1.refusal) ∧
      Run.after Host.callAs h others = Run.after Host.callAs h calls ∧
      Run.transcript Host.callAs h others = transcript.filter (·.1.caller ∉ S) ∧
      ∀ before after, calls = before ++ after →
        let admin := (Run.after Host.callAs h before).registry.admin
        admin = r.admin ∨ ∃ earlier c later, before = earlier ++ c :: later ∧
          c.HandsOver (Run.after Host.callAs h earlier) admin := by
  intro h others transcript
  have hexcludes : h.Excludes S := ⟨hr.wellFormed, hS⟩
  obtain ⟨hrefused, hafter, htranscript⟩ := hexcludes.run hcallers htransfers
  refine ⟨hrefused, hafter, htranscript, ?_⟩
  rintro before rest rfl
  exact Host.admin_after hr.wellFormed fun c hc => hcallers c (List.mem_append_left rest hc)

/-- A stranger asks for the administration, which is then handed to somebody else; nobody and the
former administrator go on calling. -/
def handover : List GuardedCall :=
  let admin := Value.text (Address.repeating 'A')
  let heir := Value.text (Address.repeating 'B')
  let stranger := Value.text (Address.repeating 'S')
  [⟨none, stranger, .transferAdmin stranger⟩, ⟨none, admin, .transferAdmin heir⟩,
    ⟨none, .null, .setNextContract stranger⟩,
    ⟨some (.int 3), heir, .setStatus admin (.status .active) (.int 9)⟩,
    ⟨some (.int 4), admin, .setStatus heir (.status .active) (.int 9)⟩]

theorem strangers_have_no_influence_handover :
    let stranger := Value.text (Address.repeating 'S')
    let h : Host := ⟨{ admin := Address.repeating 'A' }, .recorder []⟩
    Run.after Host.callAs h handover =
        Run.after Host.callAs h [handover[1], handover[3], handover[4]] ∧
      (Run.answers Host.callAs h handover)[0]? =
        some (.error (.unauthorized stranger (.text "transfer_admin"))) := by
  intro stranger h
  have hA : IsAddress (Address.repeating 'A') := Address.isAddress_repeating (by decide)
  have hcreate : Registry.create (.text (Address.repeating 'A')) = .ok h.registry := by
    rw [Registry.create_text, if_pos hA]
  have hcallers : ∀ c ∈ handover, IsCaller c.caller := by
    simp [handover, IsCaller.nobody, IsCaller.text]
  have hne : Address.repeating 'A' ≠ Address.repeating 'S' ∧
      Address.repeating 'B' ≠ Address.repeating 'S' := by decide +kernel
  classical
  obtain ⟨hrefused, hafter, -, -⟩ := strangers_have_no_influence (S := {.null, stranger})
    (.create hcreate) (.recorder []) (by simp [h, stranger, hne]) hcallers
    (by simp [handover, stranger, hne])
  refine ⟨?_, ?_⟩
  · rw [← hafter]
    congr 1
    simp [handover, stranger, hne]
  · have hfirst := hrefused (handover[0], (h.callAs handover[0]).2) List.mem_cons_self
      (by simp [handover, stranger])
    exact congrArg some hfirst

end WalletTrust
