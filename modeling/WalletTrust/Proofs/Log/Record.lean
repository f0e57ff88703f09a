import Mathlib.Data.List.Nodup
import WalletTrust.Log.Line

/-!
# Records of calls

A call whose context has names of its own is written as a record: the logger, the context, and what
the logger adds to it. Whether it can be written is up to the values of the context alone.
-/

namespace WalletTrust

namespace Json

private theorem setField_new {key : Value} {fields : List (Value × Value)}
    (h : ∀ field ∈ fields, field.1.same key = false) (v : Value) :
    Value.setField key v fields = fields ++ [(key, v)] := by
  induction fields with
  | nil => rfl
  | cons field fields ih =>
    obtain ⟨hfirst, hrest⟩ := List.forall_mem_cons.1 h
    rw [Value.setField, if_neg (by simp [hfirst]), ih hrest, List.cons_append]

theorem setField_named {read : List (String × Value)} {name : String}
    (h : name ∉ read.map (·.1)) (v : Value) :
    Value.setField (.text name) v (read.map named) = (read ++ [(name, v)]).map named := by
  rw [setField_new, List.map_append]
  · rfl
  · intro field hfield
    obtain ⟨entry, hentry, rfl⟩ := List.mem_map.1 hfield
    rw [← Bool.not_eq_true, named, Value.same_text]
    rintro rfl
    exact h (List.mem_map.2 ⟨entry, hentry, rfl⟩)

end Json

namespace Log

/-- Names that mean something to a logger, to its methods or to the lines that it writes. -/
def reservedNames : List String :=
  ["event", "exc_info", "exception", "stack_info", "stack", "level", "timestamp", "event_type",
    "logger", "method_name", "name", "self"]

/-- Names that are given once each, and to none of the fields of a logger. -/
structure AreFree (context : List (String × Value)) : Prop where
  distinct : (context.map (·.1)).Nodup
  unreserved : ∀ field ∈ context, field.1 ∉ reservedNames

/-- What a line says about a call besides its context and its logger. -/
def particulars (timestamp : String) (level : Level) (event : String) : List (String × Value) :=
  [("level", .text level.name), ("timestamp", .text timestamp), ("event_type", .text event)]

/-- What a line says about a call, in this order. -/
def recordFields (logger timestamp : String) (level : Level) (event : String)
    (context : List (String × Value)) : List (String × Value) :=
  ("logger", .text logger) :: (context ++ particulars timestamp level event)

def record (logger timestamp : String) (level : Level) (event : String)
    (context : List (String × Value)) : Value :=
  .map ((recordFields logger timestamp level event context).map Json.named)

variable {context : List (String × Value)}

namespace AreFree

theorem not_mem_names (h : AreFree context) {name : String} (hname : name ∈ reservedNames) :
    name ∉ context.map (·.1) := by
  intro hmem
  obtain ⟨field, hfield, rfl⟩ := List.mem_map.1 hmem
  exact h.unreserved field hfield hname

theorem isNamed_of_reserved (h : AreFree context) {name : String} (hname : name ∈ reservedNames)
    {field : String × Value} (hfield : field ∈ context) :
    isNamed name (Json.named field) = false := by
  rw [isNamed, Json.named, ← Bool.not_eq_true, Value.same_text]
  rintro rfl
  exact h.unreserved field hfield hname

theorem nodup_recordFields (h : AreFree context) (logger timestamp : String) (level : Level)
    (event : String) : ((recordFields logger timestamp level event context).map (·.1)).Nodup := by
  have hown : ∀ name ∈ ["level", "timestamp", "event_type"], name ∈ reservedNames := by decide
  have hlogger : "logger" ∉ context.map (·.1) := h.not_mem_names (by decide)
  rw [recordFields, particulars, List.map_cons, List.map_append, List.nodup_cons, List.nodup_append]
  refine ⟨?_, h.distinct, by simp, ?_⟩
  · rw [List.mem_append]
    rintro (hcontext | hrest)
    · exact hlogger hcontext
    · exact absurd hrest (by simp)
  · rintro name hname other hother rfl
    exact h.not_mem_names (hown name hother) hname

end AreFree

private theorem foldl_setField (read context : List (String × Value))
    (h : ((read ++ context).map (·.1)).Nodup) :
    (context.map Json.named).foldl (fun fields (name, v) => Value.setField name v fields)
      (read.map Json.named) = (read ++ context).map Json.named := by
  induction context generalizing read with
  | nil => simp
  | cons field context ih =>
    have hnew : field.1 ∉ read.map (·.1) := by
      rw [List.map_append, List.map_cons] at h
      exact fun hmem => List.disjoint_of_nodup_append h hmem List.mem_cons_self
    rw [List.map_cons, List.foldl_cons]
    have hset := Json.setField_named hnew field.2
    have hrest := ih (read ++ [field]) (by simpa using h)
    rw [List.append_assoc, List.singleton_append] at hrest
    rw [← hrest, ← hset]
    rfl

theorem document_of_areFree (h : AreFree context) (logger timestamp : String) (level : Level)
    (event : String) :
    document (.text logger) timestamp ⟨level, .text event, context.map Json.named⟩ =
      (Json.check (record logger timestamp level event context)).map fun _ =>
        Text.toPoints (Json.write (record logger timestamp level event context)) := by
  have hkept : (context.map Json.named).filter (fun field => !isNamed "exc_info" field) =
      context.map Json.named := by
    rw [List.filter_eq_self]
    intro entry hentry
    obtain ⟨field, hfield, rfl⟩ := List.mem_map.1 hentry
    rw [h.isNamed_of_reserved (by decide) hfield]
    rfl
  -- the level, the time and the event are set like three more fields of the context
  have hset := foldl_setField [("logger", .text logger)]
    (context ++ particulars timestamp level event)
    (h.nodup_recordFields logger timestamp level event)
  rw [List.map_append, List.foldl_append] at hset
  rw [record, recordFields, ← List.singleton_append, ← hset, document, callFields, hkept]
  rfl

end Log

namespace Json

theorem check_ofPoints (points : Text.Points) : check (.ofPoints points) = .ok () := by
  unfold Value.ofPoints
  split <;> rfl

private theorem checkEntries_append (xs ys : List (Value × Value)) :
    checkEntries (xs ++ ys) = checkEntries xs >>= fun _ => checkEntries ys := by
  induction xs with
  | nil => rfl
  | cons entry xs ih =>
    obtain ⟨key, v⟩ := entry
    rw [List.cons_append, checkEntries, checkEntries, ih]
    cases checkName key with
    | error f => rfl
    | ok _ => cases check v <;> rfl

end Json

namespace Log

/-- Whether an entry can be written is up to the values in its fields. -/
theorem Entry.check_eq {e : Entry} (h : AreFree e.fields) :
    e.check = Json.checkEntries (e.fields.map Json.named) := by
  have hdocument := document_of_areFree h e.source.name "" e.level e.event
  have hparticulars :
      Json.checkEntries ((particulars "" e.level e.event).map Json.named) = .ok () := rfl
  have hrecord : Json.check (record e.source.name "" e.level e.event e.fields) =
      Json.checkEntries (e.fields.map Json.named) := by
    rw [record, recordFields, List.map_cons, List.map_append, Json.check, Json.named,
      Json.checkEntries, Json.checkEntries_append, hparticulars]
    simp only [Json.checkName, Json.check, bind, Except.bind]
    cases Json.checkEntries (e.fields.map Json.named) <;> rfl
  rw [check, call, hdocument, hrecord]
  cases Json.checkEntries (e.fields.map Json.named) <;> rfl

end Log

theorem Logged.report_answer (e : Log.Entry) : (report e).answer = e.check := by
  unfold report
  cases e.check <;> rfl

end WalletTrust
