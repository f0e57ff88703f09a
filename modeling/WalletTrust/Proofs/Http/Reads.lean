import WalletTrust.Proofs.Http.Change
import WalletTrust.Proofs.Http.Complaint
import WalletTrust.Proofs.Http.Target
import WalletTrust.Proofs.Registry.Reads
import WalletTrust.Proofs.Registry.Times

/-!
# Requests that read

A wallet may be asked for alone, with word of whether it is registered, or in a batch. All answers
tell the same of it, and none of them fails, because what a registry holds of a wallet is of the
kind that answers take.
-/

namespace WalletTrust.Http

/-- The fields that answers tell of a wallet with a record. -/
inductive Tells (wallet : String) : Record → List (Value × Value) → Prop
  | mk {status : Status} {score time : Int} (hscore : 0 ≤ score ∧ score ≤ 100) :
    Tells wallet ⟨.status status, .int score, .int time⟩
      [(.text "wallet_address", .text wallet), (.text "status", .text status.name),
        (.text "trust_score", .int score), (.text "updated_at", .int time)]

/-- A request for something at a path, by a method. -/
structure Request.IsFor (r : Request) (method path : String) : Prop where
  method : r.method = Text.toPoints method
  path : pathOf r.target = path

/-- The texts in a list that has nothing else in it. -/
def textsOf? : List Value → Option (List String)
  | [] => some []
  | .text s :: rest => (textsOf? rest).map (s :: ·)
  | _ => none

/-- The wallets that the body of a request names, if all of them are texts. -/
def Request.wallets? (r : Request) : Option (List String) :=
  match bodyContent r with
  | .present (.map entries) => match Value.field? "wallet_addresses" entries with
    | some (.list items) => textsOf? items
    | _ => none
  | _ => none

private theorem textsOf?_eq_some {items : List Value} {wallets : List String}
    (h : textsOf? items = some wallets) : items = wallets.map .text := by
  induction items generalizing wallets with
  | nil =>
    cases h
    rfl
  | cons v items ih =>
    cases v with
    | text s =>
      obtain ⟨rest, hrest, rfl⟩ := Option.map_eq_some_iff.1 h
      rw [List.map_cons, ih hrest]
    | _ => cases h

private theorem Request.wallets?_eq_some {r : Request} {wallets : List String}
    (h : r.wallets? = some wallets) :
    ∃ entries, bodyContent r = .present (.map entries) ∧
      Value.field? "wallet_addresses" entries = some (.list (wallets.map .text)) := by
  unfold Request.wallets? at h
  split at h
  · rename_i entries hbody
    split at h
    · rename_i items hitems
      rw [textsOf?_eq_some h] at hitems
      exact ⟨entries, hbody, hitems⟩
    · cases h
  · cases h

/-- Texts that a path can end in as a wallet. -/
def IsSegment (wallet : String) : Prop := wallet ≠ "" ∧ '/' ∉ wallet.toList

namespace Route

theorem wallet?_append {r : Route} (hr : r.endsInWallet = true) {wallet : String}
    (h : IsSegment wallet) : r.wallet? (r.base ++ wallet) = some wallet := by
  simp [wallet?, hr, h.1, h.2]

theorem fits_append_eq_false {r : Route} {base wallet : String}
    (h : r.base.toList.isPrefixOf (base.toList ++ wallet.toList) = false) :
    r.fits (base ++ wallet) = false := by
  simp only [fits, wallet?, String.toList_append, h]
  rfl

end Route

/-- A path that ends in a wallet belongs to the one route whose path it goes on from. -/
theorem dispatch_append {r : Route} (hr : r.endsInWallet = true) {wallet : String}
    (h : IsSegment wallet) :
    dispatch (Text.toPoints "GET") (r.base ++ wallet) = .handle r wallet := by
  have hwallet := Route.wallet?_append hr h
  have hfits : r.fits (r.base ++ wallet) = true := by
    rw [Route.fits, hwallet]
    rfl
  cases r with
  | status =>
    have hhealth : Route.health.fits (Route.status.base ++ wallet) = false :=
      Route.fits_append_eq_false rfl
    have hmetrics : Route.metrics.fits (Route.status.base ++ wallet) = false :=
      Route.fits_append_eq_false rfl
    simp [dispatch, Route.all, Route.method, hhealth, hmetrics, hfits, hwallet]
  | lookup =>
    have hhealth : Route.health.fits (Route.lookup.base ++ wallet) = false :=
      Route.fits_append_eq_false rfl
    have hmetrics : Route.metrics.fits (Route.lookup.base ++ wallet) = false :=
      Route.fits_append_eq_false rfl
    have hstatus : Route.status.fits (Route.lookup.base ++ wallet) = false :=
      Route.fits_append_eq_false rfl
    simp [dispatch, Route.all, Route.method, hhealth, hmetrics, hstatus, hfits, hwallet]
  | _ => cases hr

namespace Service

variable {r : Registry} {P : Int → Prop} {wallet : String} {wallets : List String}
  {entry : String → List (Value × Value)}

theorem statusFields_eq_ok {record : Record} {fields : List (Value × Value)}
    (h : Tells wallet record fields) : statusFields (.text wallet) record = .ok fields := by
  cases h with
  | mk hscore =>
    rename_i status score time
    have hrange : Score.inRange score = true := by simpa [Score.inRange] using hscore
    simp only [statusFields, answerStatus, answerScore, answerTime, asInteger, hrange]
    rfl

/-- Whatever a registry says of a wallet can be told: what it holds, and the default record. -/
theorem exists_tells (hr : r.WellFormed) (ht : r.Timed P) (wallet : String) :
    ∃ fields, Tells wallet (r.recordOf (.text wallet)) fields := by
  have hfinds := hr.finds_lookup (.text wallet)
  unfold Registry.recordOf
  generalize r.lookup (.text wallet) = l at hfinds
  cases hfinds with
  | found haddress hrecord =>
    rename_i record
    obtain ⟨other, -, hmem⟩ := Registry.mem_records_snapshot.1 hrecord
    obtain ⟨-, ⟨status, hstatus⟩, score, hscore, hrange⟩ := hr.records _ hmem
    obtain ⟨time, htime, -⟩ := ht _ hmem
    obtain ⟨recordStatus, recordScore, recordTime⟩ := record
    cases hstatus
    cases hscore
    cases htime
    exact ⟨_, .mk hrange⟩
  | unseen => exact ⟨_, .mk (by decide)⟩
  | malformed => exact ⟨_, .mk (by decide)⟩

/-- What a request for a wallet with word of its registration is answered, next to the fields that
are told of it without. -/
structure LooksUp (r : Registry) (wallet : String) (fields : List (Value × Value))
    (reply : Reply) : Prop where
  fields : wallet ∈ Registry.wallets r.records →
    reply = .fields 200 (fields ++ [(.text "outcome", .text "ok")])
  registered : reply.status = 200 ↔ wallet ∈ Registry.wallets r.records
  malformed : reply.status = 400 ↔ ¬ IsAddress wallet
  unseen : reply.status = 404 ↔ IsAddress wallet ∧ wallet ∉ Registry.wallets r.records

private theorem asTexts_texts (name : String) (i : Nat) (wallets : List String) :
    asTexts name i (wallets.map .text) = .ok (wallets.map .text) := by
  induction wallets generalizing i with
  | nil => rfl
  | cons w wallets ih =>
    rw [List.map_cons, asTexts, ih]
    rfl

private theorem wallets_texts {entries : List (Value × Value)}
    (h : Value.field? "wallet_addresses" entries = some (.list (wallets.map .text))) :
    Http.wallets (.map entries) =
      if batchLimit < wallets.length then
        .error [{ kind := .tooLong wallets.length, place := [.text "wallet_addresses"]
                  input := .list (wallets.map .text) }]
      else .ok (wallets.map .text) := by
  simp only [Http.wallets, entriesOf, required, h, Except.mapError, bind, Except.bind,
    List.length_map, asTexts_texts]

section

variable (hentry : ∀ wallet, Tells wallet (r.recordOf (.text wallet)) (entry wallet))

include hentry

theorem statusReply_eq (wallet : String) : statusReply r wallet = .fields 200 (entry wallet) := by
  rw [statusReply, statusFields_eq_ok (hentry wallet)]

theorem looksUp_lookupReply (hr : r.WellFormed) (wallet : String) :
    LooksUp r wallet (entry wallet) (lookupReply r wallet) := by
  have htold := statusFields_eq_ok (hentry wallet)
  have hkey : Value.text wallet ∈ r.snapshot.keys ↔ wallet ∈ Registry.wallets r.records := by
    simp [Registry.mem_keys_snapshot]
  have haddress : (Value.text wallet).IsAddress ↔ IsAddress wallet := by simp [Value.IsAddress]
  have hfinds := hr.finds_lookup (.text wallet)
  unfold lookupReply
  rw [Registry.recordOf] at htold
  generalize r.lookup (.text wallet) = l at hfinds htold
  cases hfinds with
  | found hvalid hrecord =>
    have hmem := hkey.1 (List.mem_map.2 ⟨_, hrecord, rfl⟩)
    simp only [htold]
    exact ⟨fun _ => rfl, iff_of_true rfl hmem,
      iff_of_false nofun (not_not_intro (haddress.1 hvalid)),
      iff_of_false nofun fun habsent => habsent.2 hmem⟩
  | unseen hvalid habsent =>
    have hnone := mt hkey.2 habsent
    exact ⟨fun hmem => absurd hmem hnone, iff_of_false nofun hnone,
      iff_of_false nofun (not_not_intro (haddress.1 hvalid)),
      iff_of_true rfl ⟨haddress.1 hvalid, hnone⟩⟩
  | malformed hinvalid habsent =>
    have hnone := mt hkey.2 habsent
    have hnot := mt haddress.2 hinvalid
    exact ⟨fun hmem => absurd hmem hnone, iff_of_false nofun hnone, iff_of_true rfl hnot,
      iff_of_false nofun fun hvalid => hnot hvalid.1⟩

/-- Each position of a batch gets what is told of its wallet. -/
theorem batchEntries_eq {records : List (Value × Record)}
    (h : ∀ wallet ∈ wallets, records.find? (·.1.same (.text wallet)) =
      some (.text wallet, r.recordOf (.text wallet))) :
    batchEntries records (wallets.map .text) =
      .ok (wallets.map fun wallet => .map (entry wallet)) := by
  induction wallets with
  | nil => rfl
  | cons w wallets ih =>
    have hfirst := h w List.mem_cons_self
    have hrest := ih fun v hv => h v (List.mem_cons_of_mem w hv)
    rw [List.map_cons, batchEntries, hfirst, hrest]
    simp only [Option.map_some, Option.getD_some, statusFields_eq_ok (hentry w)]
    rfl

theorem batchReply_eq (wallets : List String) :
    batchReply r (wallets.map .text) =
      .fields 200 [(.text "statuses", .list (wallets.map fun wallet => .map (entry wallet)))] := by
  have hstrings : ∀ v ∈ wallets.map Value.text, v.IsString := by
    intro v hv
    obtain ⟨w, -, rfl⟩ := List.mem_map.1 hv
    exact .text w
  have hentries := batchEntries_eq hentry fun _ => r.find?_distinct_texts wallets
  have hbroken : anyIn isBrokenText (wallets.map .text) = false := (isSendable_texts wallets).texts
  simp only [batchReply, r.recordsOf_strings hstrings, bind, Except.bind, hentries, hbroken]
  rfl

end

/-- A request for a wallet reads it, whatever else the request holds. -/
theorem reply_of_wallet (s : Service) (route : Route) (hroute : route.endsInWallet = true)
    (h : IsSegment wallet) {request : Request} (hfor : request.IsFor "GET" (route.base ++ wallet))
    (clock : Clock) (duration : Binary64) (heard : Clocks) :
    (s.serve clock duration request heard).reply =
      (s.handle clock request route wallet heard).reply := by
  rw [(s.serve_spec clock duration request heard).2.2.2, Service.route, hfor.method, hfor.path,
    dispatch_append hroute h]

/-- A batch is answered without a look at its caller. -/
theorem reply_of_batch (s : Service) {request : Request}
    (hfor : request.IsFor "POST" Route.batch.base) (hwallets : request.wallets? = some wallets)
    (clock : Clock) (duration : Binary64) (heard : Clocks) :
    (s.serve clock duration request heard).reply =
      if batchLimit < wallets.length then
        problemReply [{ kind := .tooLong wallets.length, place := [.text "wallet_addresses"]
                        input := .list (wallets.map .text) }]
      else batchReply s.host.registry (wallets.map .text) := by
  have hdispatch : dispatch (Text.toPoints "POST") Route.batch.base = .handle .batch "" := rfl
  obtain ⟨entries, hbody, hfield⟩ := Request.wallets?_eq_some hwallets
  rw [(s.serve_spec clock duration request heard).2.2.2, Service.route, hfor.method, hfor.path,
    hdispatch]
  simp only [handle, handlePost, hbody, handleBody, commandOf?, checkBody, wallets_texts hfield]
  split_ifs <;> rfl

end Service

/-- All reads of a service tell the same of a wallet and none of them fails, whatever registry there
can be behind it, as long as its times are integers. Any text that a path can end in can be asked
for, and a batch answers each of its positions. -/
theorem requested_reads_agree {s : Service} {P : Int → Prop}
    (hr : s.host.registry.Obtainable) (ht : s.host.registry.Timed P) :
    ∃ entry : String → List (Value × Value),
      (∀ wallet, Tells wallet (s.host.registry.recordOf (.text wallet)) (entry wallet)) ∧
      (∀ path ∈ ["/api/v1/status/", "/api/v1/lookup/"], ∀ wallet,
        ∃ request : Request, request.IsFor "GET" (path ++ wallet)) ∧
      ∀ (clock : Clock) (duration : Binary64) (heard : Clocks) (request : Request),
        (∀ wallet, IsSegment wallet → request.IsFor "GET" ("/api/v1/status/" ++ wallet) →
          (s.serve clock duration request heard).reply = .fields 200 (entry wallet)) ∧
        (∀ wallet, IsSegment wallet → request.IsFor "GET" ("/api/v1/lookup/" ++ wallet) →
          Service.LooksUp s.host.registry wallet (entry wallet)
            (s.serve clock duration request heard).reply) ∧
        ∀ wallets, request.IsFor "POST" "/api/v1/status/batch" →
          request.wallets? = some wallets →
            (wallets.length ≤ 1000 → (s.serve clock duration request heard).reply = .fields 200
              [(.text "statuses", .list (wallets.map fun wallet => .map (entry wallet)))]) ∧
            (1000 < wallets.length →
              (s.serve clock duration request heard).reply.status = 422) := by
  have hwf := hr.reachable.wellFormed
  choose entry hentry using fun wallet => Service.exists_tells hwf ht wallet
  refine ⟨entry, hentry, ?_, fun clock duration heard request => ⟨?_, ?_, ?_⟩⟩
  · intro path hpath wallet
    have hplain : path.toList.all isPlainChar = true := by
      simp only [List.mem_cons, List.not_mem_nil, or_false] at hpath
      rcases hpath with rfl | rfl <;> rfl
    exact ⟨{ target := path ++ Text.percentEncoded wallet }, rfl,
      pathOf_percentEncoded hplain wallet⟩
  · intro wallet hwallet hfor
    rw [s.reply_of_wallet .status rfl hwallet hfor]
    exact Service.statusReply_eq hentry wallet
  · intro wallet hwallet hfor
    rw [s.reply_of_wallet .lookup rfl hwallet hfor]
    exact Service.looksUp_lookupReply hentry hwf wallet
  · intro wallets hfor hwallets
    rw [s.reply_of_batch hfor hwallets]
    constructor
    · intro hfew
      have hlimit : ¬ batchLimit < wallets.length := Nat.not_lt.2 hfew
      rw [if_neg hlimit]
      exact Service.batchReply_eq hentry wallets
    · intro hmany
      have hlimit : batchLimit < wallets.length := hmany
      rw [if_pos hlimit]
      exact (isSendable_texts wallets).status_problemReply _ _

/-- A batch that names one wallet twice, next to one that is malformed. -/
def asking : Request where
  method := Text.toPoints "POST"
  target := "/api/v1/status/batch"
  contentType? := some "application/json"
  body := (Text.utf8 ("\x7b\"wallet_addresses\":[\"" ++ Address.repeating 'D' ++ "\",\"é\",\"" ++
    Address.repeating 'D' ++ "\"]\x7d")).map UInt8.ofNat

theorem requested_reads_agree_patchy :
    let app := Service.putUp ⟨⟨Registry.patched, .silent⟩, .admin, none, {}⟩
    let kept := Address.repeating 'D'
    ∃ entry : String → List (Value × Value),
      Tells kept { status := .status .active, trustScore := .int 50 } (entry kept) ∧
      (app.serve none (.zero false) { target := "/api/v1/status/%C3%A9" }).reply =
        .fields 200 (entry "é") ∧
      (app.serve none (.zero false) { target := "/api/v1/lookup/" ++ kept }).reply =
        .fields 200 (entry kept ++ [(.text "outcome", .text "ok")]) ∧
      (app.serve none (.zero false) asking).reply = .fields 200
        [(.text "statuses", .list [.map (entry kept), .map (entry "é"), .map (entry kept)])] := by
  intro app kept
  have hr : Registry.patched.Obtainable :=
    .restore Registry.isProper_patchy Registry.restore_patchy
  have ht : Registry.patched.Timed (Store.Cell.inWord · = true) := by
    intro entry hentry
    obtain rfl := List.mem_singleton.1 hentry
    exact ⟨0, rfl, by decide⟩
  obtain ⟨entry, hentry, -, hreads⟩ := requested_reads_agree (s := app) hr ht
  have hwf := hr.reachable.wellFormed
  have hagrees := (hwf.finds_lookup (.text kept)).agrees hwf
  have hmem : (Value.text kept, { status := .status .active, trustScore := .int 50 }) ∈
      Registry.patched.snapshot.records :=
    Registry.mem_records_snapshot.2 ⟨kept, rfl, List.mem_cons_self⟩
  have hkept := ((hagrees.stored _).1 hmem).2
  have hsegment : IsSegment kept := ⟨by decide +kernel, by decide +kernel⟩
  refine ⟨entry, hkept ▸ hentry kept, ?_, ?_, ?_⟩
  · exact (hreads none (.zero false) (.same none) _).1 "é" ⟨by decide, by decide⟩
      ⟨rfl, by decide +kernel⟩
  · exact ((hreads none (.zero false) (.same none) _).2.1 kept hsegment
      ⟨rfl, by decide +kernel⟩).fields List.mem_cons_self
  · have hasked : asking.wallets? = some [kept, "é", kept] := by decide +kernel
    exact ((hreads none (.zero false) (.same none) asking).2.2 _ ⟨rfl, by decide +kernel⟩
      hasked).1 (by decide)

end WalletTrust.Http
