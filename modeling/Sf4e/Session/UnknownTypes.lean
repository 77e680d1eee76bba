/-
# Messages of an unknown type

`Step` drops a message without a `type`, and its log text says the same of a type that is not a
string.  But the JSON library reads every value that is not in the table of the enumeration,
string or not, as the table's first entry, and that is `hello`.  So an unknown message on a
connection without an id is a greeting, and answered as one.

`noEffect_iff` says when an unknown message has no effect, and `run_filter_unknown` that those
without effect can be left out of a run.
-/
import Sf4e.Session.Membership

namespace Sf4e

open SessionProtocol SessionServer Trace

/-! ## Names of message types -/

/-- The value is exactly one of the known message names. -/
def SessionProtocol.TypeField.Listed (f : TypeField) : Prop :=
  ∃ t ∈ messageTypeNames.map (·.2), f = .name t

instance : DecidablePred TypeField.Listed := fun _ =>
  inferInstanceAs (Decidable (∃ _ ∈ _, _))

/-- A listed value is read as the type that it is the name of. -/
lemma toJson_fromJson {f : TypeField} (h : f.Listed) : (MessageType.fromJson f).toJson = f := by
  obtain ⟨name, hname, rfl⟩ := h
  revert name
  decide

/-- The default of the table. -/
lemma fromJson_of_not_listed {f : TypeField} (h : ¬ f.Listed) :
    MessageType.fromJson f = .sessionHello := by
  cases f with
  | other => rfl
  | name s =>
    have hnone : messageTypeNames.find? (fun p => p.2 == s) = none := by
      refine List.find?_eq_none.2 fun p hp heq => h ⟨p.2, List.mem_map_of_mem hp, ?_⟩
      rw [beq_iff_eq.1 heq]
    rw [MessageType.fromJson, hnone]

/-- The message is well-formed JSON and its type, if it has one, is no known name. -/
def Incoming.Unknown (m : Incoming) : Prop :=
  ∃ doc ∈ m.payload, ∀ f ∈ doc.type, ¬ f.Listed

instance : DecidablePred Incoming.Unknown := fun _ =>
  inferInstanceAs (Decidable (∃ _ ∈ (_ : Option Document), ∀ _ ∈ (_ : Option TypeField), _))

/-! ## What they do -/

/-- Handling the message changes nothing, promises nothing and sends nothing. -/
def NoEffect (st : StepState) (m : Incoming) : Prop := st.onMessage m = some (st, [])

section NoEffect

variable {st : StepState} {m : Incoming} {doc : Document}

/-- A greeting on a connection that has an id is ignored. -/
lemma onRegistered_sessionHello (cid : ConnectionID) :
    st.onRegistered m doc .sessionHello cid = some (st, []) := rfl

/-- A greeting on a connection without an id gives it one. -/
lemma cidMap_onHello (s : SessionServer) (conn : HSteamNetConnection) :
    (s.onHello conn).1.cidMap conn ≠ none := by
  simp [onHello]

/-- Without a type, or on a connection that has an id, an unknown message is dropped. -/
lemma noEffect_of_ignored (h : m.Unknown)
    (hignored : m.type? = none ∨ (st.server.cidMap m.conn).isSome) : NoEffect st m := by
  obtain ⟨doc, hdoc, hunknown⟩ := h
  have hp : m.payload = some doc := hdoc
  unfold NoEffect StepState.onMessage
  cases ht : doc.type with
  | none => simp only [hp, ht]
  | some field =>
    have hhello : MessageType.fromJson field = .sessionHello :=
      fromJson_of_not_listed (hunknown field ht)
    rcases hignored with htype | hid
    · simp [Incoming.type?, hp, ht] at htype
    · obtain ⟨cid, hc⟩ := Option.isSome_iff_exists.1 hid
      simp only [hp, ht, hc, hhello]
      exact onRegistered_sessionHello cid

/-- On a connection without an id it is a greeting. -/
lemma onMessage_of_greeting (h : m.Unknown) (htype : m.type? ≠ none)
    (hc : st.server.cidMap m.conn = none) :
    st.onMessage m = some ({ st with server := (st.server.onHello m.conn).1 },
      (st.server.onHello m.conn).2) := by
  obtain ⟨doc, hdoc, hunknown⟩ := h
  have hp : m.payload = some doc := hdoc
  unfold StepState.onMessage
  cases ht : doc.type with
  | none => simp [Incoming.type?, hp, ht] at htype
  | some field =>
    have hhello : MessageType.fromJson field = .sessionHello :=
      fromJson_of_not_listed (hunknown field ht)
    simp only [hp, ht, hc, hhello, if_true]

/-- **Unknown messages.**  A message of no known type has no effect exactly when it has no
type at all or its connection has an id. -/
theorem noEffect_iff (h : m.Unknown) :
    NoEffect st m ↔ m.type? = none ∨ (st.server.cidMap m.conn).isSome := by
  constructor
  · intro hno
    by_contra hgreeting
    rw [not_or, Option.not_isSome_iff_eq_none] at hgreeting
    obtain ⟨htype, hc⟩ := hgreeting
    have heq := (onMessage_of_greeting h htype hc).symm.trans hno
    -- the connection has an id now
    have hcid := congrArg (fun r => r.1.server.cidMap m.conn) (Option.some.inj heq)
    exact cidMap_onHello st.server m.conn (hcid.trans hc)
  · exact noEffect_of_ignored h

/-- The message is one that has no effect for lack of a type or because of its connection's
id. -/
def IgnoredUnknown (e : ServerEntry) : Prop :=
  ∃ m ∈ e.act.message?, m.Unknown ∧ (m.type? = none ∨ (e.pre.server.cidMap m.conn).isSome)

instance : DecidablePred IgnoredUnknown := fun _ =>
  inferInstanceAs (Decidable (∃ _ ∈ (_ : Option Incoming), _))

/-- **Unknown messages in a run.**  A run goes the same way without the ignored unknown
messages. -/
theorem run_filter_unknown {log : List ServerEntry} {ph : Phase} (h : serverLTS.Run log ph) :
    serverLTS.Run (log.filter fun e => !decide (IgnoredUnknown e)) ph := by
  refine h.filter fun e he hskip => ?_
  obtain ⟨m, hm, hunknown, hignored⟩ : IgnoredUnknown e := by simpa using hskip
  obtain ⟨s, -, hpath⟩ := h
  have hstep := hpath.steps_of_mem he
  obtain ⟨pre, a, out, post⟩ := e
  have hnext : pre.next a = some (out, post) := hstep
  dsimp only at hm hignored ⊢
  cases a with
  | message m' =>
    obtain rfl : m' = m := Option.some.inj hm
    cases pre with
    | idle s => cases hnext
    | receiving st =>
      have hno : st.onMessage m' = some (st, []) := noEffect_of_ignored hunknown hignored
      rw [Phase.next, hno] at hnext
      obtain ⟨-, rfl⟩ := Prod.mk.inj (Option.some.inj hnext)
      rfl
  | _ => cases hm

end NoEffect

/-! ## An unknown greeting -/

/-- A message of the type `name`, on connection `1`. -/
def unknownMessage (name : String) : Incoming where
  conn := 1
  messageNumber := 1
  payload := some { type := some (.name name) }

/-- A fresh server that is reading messages. -/
def freshReader : StepState := .start (.new "" "" true 3 ⟨0, 99⟩)

/-- An unknown message on a connection with an id has no effect. -/
theorem noEffect_registered :
    NoEffect { freshReader with server := (freshReader.server.onHello 1).1 }
      (unknownMessage "hallo") :=
  (noEffect_iff (by decide)).2 (.inr (by decide))

/-- **An unknown message on a new connection gives it an id.** -/
theorem not_noEffect :
    ¬ ∀ (st : StepState) (m : Incoming), m.Unknown → NoEffect st m := by
  intro h
  have hno := h freshReader (unknownMessage "hallo") (by decide)
  have hgreeting : freshReader.onMessage (unknownMessage "hallo") =
      some ({ freshReader with server := (freshReader.server.onHello 1).1 },
        (freshReader.server.onHello 1).2) :=
    onMessage_of_greeting (by decide) (by decide) rfl
  have hsent := congrArg (fun r => r.2.length) (Option.some.inj (hgreeting.symm.trans hno))
  cases hsent

end Sf4e
