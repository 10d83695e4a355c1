import WidgetRepair.Assist.Model
import WidgetRepair.Proofs.JsonDrafts
import WidgetRepair.Proofs.Stateful

/-! What a language model answers, by what comes back for its requests. A request is made again only while the reply
may pass, and at most twice; the answer is read off the last reply alone. -/

namespace WidgetRepair

open Source Json

namespace LanguageModel

variable {room : Nat} {α : Type} {item : Place → Except Fault α} {name : String} {a : α} {v : Value}

/-- What a value holds that is taken for a record of one field: the value of the field, which is there once, or the
only item of a list. -/
inductive Only (name : String) : Value → Value → Prop where
  | named {fields : List (String × Value)} {u : Value} (once : fields.filter (·.1 = name) = [(name, u)]) :
    Only name (.record fields) u
  | ordered (u : Value) : Only name (.list [u]) u

section Fields

/-- The fields of a record as they are read in a place with some room. -/
def fieldsIn (room : Nat) (fields : List (String × Value)) : List (Except Fault (String × Place)) :=
  fields.map fun field => .ok (field.1, ⟨room - 1, field.2.draft⟩)

/-- The field of a record of one field. -/
def onlyField (name : String) (item : Place → Except Fault α) : Field Place (Except Fault) (Option α) :=
  .of name id (fun v _ => v) item

variable {field : String × Value} {rest : List (String × Value)} {start filled : Option α}

theorem namedFields_other (other : field.1 ≠ name) :
    namedFields [onlyField name item] (fieldsIn room (field :: rest)) start =
      namedFields [onlyField name item] (fieldsIn room rest) start := by
  have unlike : (name == field.1) = false := beq_false_of_ne other.symm
  have passed : Source.skip (⟨room - 1, field.2.draft⟩ : Place) = .ok () := Draft.skip_draft field.2
  simp [fieldsIn, namedFields, onlyField, Field.of, unlike, passed, bind, Except.bind]

theorem namedFields_here (u : Value) : namedFields [onlyField name item] (fieldsIn room ((name, u) :: rest)) none =
    (item ⟨room - 1, u.draft⟩ >>= fun a => namedFields [onlyField name item] (fieldsIn room rest) (some a)) := by
  cases read : item ⟨room - 1, u.draft⟩ <;>
    simp [fieldsIn, namedFields, onlyField, Field.of, read, bind, Except.bind, pure, Except.pure]

theorem namedFields_twice (u : Value) :
    namedFields [onlyField name item] (fieldsIn room ((name, u) :: rest)) (some a) = .error .mismatched := by
  simp [fieldsIn, namedFields, onlyField, Field.of, bind, Except.bind]
  rfl

theorem namedFields_filled_iff {fields : List (String × Value)} :
    namedFields [onlyField name item] (fieldsIn room fields) (some a) = .ok filled ↔
      fields.filter (·.1 = name) = [] ∧ filled = some a := by
  induction fields with
  | nil => simp [fieldsIn, namedFields, pure, Except.pure, eq_comm]
  | cons field rest ih =>
    by_cases here : field.1 = name
    · obtain ⟨key, u⟩ := field
      subst here
      rw [namedFields_twice]
      exact iff_of_false nofun (by simp)
    · rw [namedFields_other here, ih, List.filter_cons_of_neg (by simpa using here)]

theorem namedFields_ok_iff {fields : List (String × Value)} :
    namedFields [onlyField name item] (fieldsIn room fields) none = .ok (some a) ↔
      ∃ u, fields.filter (·.1 = name) = [(name, u)] ∧ item ⟨room - 1, u.draft⟩ = .ok a := by
  induction fields with
  | nil => simp [fieldsIn, namedFields, pure, Except.pure]
  | cons field rest ih =>
    by_cases here : field.1 = name
    · obtain ⟨key, u⟩ := field
      subst here
      rw [namedFields_here, List.filter_cons_of_pos (by simp)]
      constructor
      · intro read
        obtain ⟨b, first, later⟩ := bind_ok read
        obtain ⟨none, same⟩ := namedFields_filled_iff.mp later
        cases same
        exact ⟨u, by rw [none], first⟩
      · rintro ⟨w, once, first⟩
        obtain ⟨same, none⟩ := List.cons.inj once
        cases same
        rw [first]
        exact namedFields_filled_iff.mpr ⟨none, rfl⟩
    · rw [namedFields_other here, ih, List.filter_cons_of_neg (by simpa using here)]

theorem orderedFields_ok_iff {values : List Value} {surplus : Fault} :
    orderedFields (some surplus) [onlyField name item] (values.map fun v => .ok ⟨room - 1, v.draft⟩) none =
      .ok (some a) ↔ ∃ u, values = [u] ∧ item ⟨room - 1, u.draft⟩ = .ok a := by
  match values with
  | [] => simp [orderedFields, pure, Except.pure]
  | [u] =>
    cases read : item ⟨room - 1, u.draft⟩ <;>
      simp [orderedFields, onlyField, Field.of, read, bind, Except.bind, pure, Except.pure]
  | u :: w :: rest =>
    refine iff_of_false ?_ (by simp)
    cases read : item ⟨room - 1, u.draft⟩ <;>
      simp [orderedFields, onlyField, Field.of, read, bind, Except.bind, pure, Except.pure]

end Fields

theorem complete_ok_iff {read : Except Fault (Option α)} : (read >>= fun filled => match id filled with
    | some a => pure a
    | none => throw Fault.mismatched) = .ok a ↔ read = .ok (some a) := by
  cases read with
  | error fault => exact iff_of_false nofun nofun
  | ok filled =>
    cases filled with
    | none => exact iff_of_false nofun nofun
    | some b => simp [bind, Except.bind, pure, Except.pure]

theorem wrapped_ok_iff (inside : 1 < room) : wrapped name item ⟨room, v.draft⟩ = .ok a ↔
    ∃ u, Only name v u ∧ item ⟨room - 1, u.draft⟩ = .ok a := by
  cases v with
  | record fields =>
    have read : wrapped name item ⟨room, (Value.record fields).draft⟩ = .ok a ↔
        namedFields [onlyField name item] (fieldsIn room fields) none = .ok (some a) := by
      simp only [wrapped, recordOf, record_draft inside]
      exact complete_ok_iff
    rw [read, namedFields_ok_iff]
    constructor
    · rintro ⟨u, once, first⟩
      exact ⟨u, .named once, first⟩
    · rintro ⟨u, only, first⟩
      cases only with
      | named once => exact ⟨u, once, first⟩
  | list values =>
    have read : wrapped name item ⟨room, (Value.list values).draft⟩ = .ok a ↔
        orderedFields (some .malformed) [onlyField name item] (values.map fun v => .ok ⟨room - 1, v.draft⟩) none =
          .ok (some a) := by
      simp only [wrapped, recordOf, ordered_draft inside]
      exact complete_ok_iff
    rw [read, orderedFields_ok_iff]
    constructor
    · rintro ⟨u, rfl, first⟩
      exact ⟨u, .ordered u, first⟩
    · rintro ⟨u, only, first⟩
      cases only with
      | ordered => exact ⟨u, rfl, first⟩
  | null | flag b | number n | text s =>
    refine iff_of_false (fun read => ?_) (by rintro ⟨u, only, -⟩; cases only)
    rw [Value.draft] at read
    cases read

theorem mapM_ok_iff {β γ : Type} {read : β → Except Fault γ} {items : List β} {answers : List γ} :
    items.mapM read = .ok answers ↔ List.Forall₂ (fun b c => read b = .ok c) items answers := by
  induction items generalizing answers with
  | nil => simp [pure, Except.pure, eq_comm]
  | cons b rest ih =>
    rw [List.mapM_cons]
    constructor
    · intro all
      obtain ⟨c, first, all⟩ := bind_ok all
      obtain ⟨others, later, all⟩ := bind_ok all
      cases all
      exact .cons first (ih.mp later)
    · intro all
      cases all with
      | cons first later =>
        rw [first, ih.mpr later]
        rfl

theorem listOf_ok_iff {answers : List α} (inside : 1 < room) : listOf item ⟨room, v.draft⟩ = .ok answers ↔
    ∃ items, v = .list items ∧ List.Forall₂ (fun u a => item ⟨room - 1, u.draft⟩ = .ok a) items answers := by
  cases v with
  | list items =>
    have read : listOf item ⟨room, (Value.list items).draft⟩ = .ok answers ↔
        List.Forall₂ (fun u a => item ⟨room - 1, u.draft⟩ = .ok a) items answers := by
      simp only [listOf, items_draft inside, bind, Except.bind, mapM_ok_iff, List.forall₂_map_left_iff]
    rw [read]
    constructor
    · intro all
      exact ⟨items, rfl, all⟩
    · rintro ⟨_, same, all⟩
      cases same
      exact all
  | null | flag b | number n | text s | record fields =>
    refine iff_of_false (fun read => ?_) (by rintro ⟨items, same, -⟩; cases same)
    rw [Value.draft] at read
    cases read

theorem text_ok_iff {s : String} : text (⟨room, v.draft⟩ : Place) = .ok s ↔ v = .text s := by
  cases v with
  | text t => simp
  | null | flag b | number n | list items | record fields =>
    refine iff_of_false (fun read => ?_) (by rintro ⟨⟩)
    rw [Value.draft] at read
    cases read

/-- The texts that a value offers as the body of a reply: those of its choices, or those of its blocks. -/
inductive Offers : Provider → Value → List String → Prop where
  | choices {v : Value} {choices : List Value} {texts : List String} (only : Only "choices" v (.list choices))
    (each : List.Forall₂ (fun choice text => ∃ message, Only "message" choice message ∧
      Only "content" message (.text text)) choices texts) : Offers .openAI v texts
  | blocks {v : Value} {blocks : List Value} {texts : List String} (only : Only "content" v (.list blocks))
    (each : List.Forall₂ (fun block text => Only "text" block (.text text)) blocks texts) : Offers .anthropic v texts

theorem wrapped_text_ok_iff (inside : 1 < room) {s : String} :
    wrapped name text (⟨room, v.draft⟩ : Place) = .ok s ↔ Only name v (.text s) := by
  rw [wrapped_ok_iff inside]
  constructor
  · rintro ⟨u, only, read⟩
    exact text_ok_iff.mp read ▸ only
  · intro only
    exact ⟨.text s, only, text_ok_iff.mpr rfl⟩

theorem offers_ok_iff (inside : 4 < room) (provider : Provider) {texts : List String} :
    offers provider ⟨room, v.draft⟩ = .ok texts ↔ Offers provider v texts := by
  cases provider with
  | openAI =>
    have message (u : Value) (s : String) : wrapped "message" (wrapped "content" text) ⟨room - 1 - 1, u.draft⟩ =
        .ok s ↔ ∃ message, Only "message" u message ∧ Only "content" message (.text s) := by
      rw [wrapped_ok_iff (by omega)]
      simp only [wrapped_text_ok_iff (show 1 < room - 1 - 1 - 1 by omega)]
    rw [offers, wrapped_ok_iff (by omega)]
    simp only [listOf_ok_iff (show 1 < room - 1 by omega), message]
    constructor
    · rintro ⟨_, only, choices, rfl, each⟩
      exact .choices only each
    · intro offered
      cases offered with
      | choices only each => exact ⟨_, only, _, rfl, each⟩
  | anthropic =>
    rw [offers, wrapped_ok_iff (by omega)]
    simp only [listOf_ok_iff (show 1 < room - 1 by omega),
      wrapped_text_ok_iff (show 1 < room - 1 - 1 by omega)]
    constructor
    · rintro ⟨_, only, blocks, rfl, each⟩
      exact .blocks only each
    · intro offered
      cases offered with
      | blocks only each => exact ⟨_, only, _, rfl, each⟩

/-- What a model answers when a reply is the last one. -/
inductive Means (provider : Provider) : Reply → Except AssistFault String → Prop where
  | lost (reason : String) : Means provider (.lost reason) (.error (.network reason))
  | failed {code : Nat} (body : String) (failure : ¬ (200 ≤ code ∧ code ≤ 299)) :
    Means provider (.answered code body) (.error (.status provider code body))
  | unreadable {code : Nat} {body : String} (success : 200 ≤ code ∧ code ≤ 299) {fault : Fault}
    (read : decode (offers provider) body = .error fault) :
    Means provider (.answered code body) (.error (.unreadable fault))
  | empty {code : Nat} {body : String} (success : 200 ≤ code ∧ code ≤ 299)
    (read : decode (offers provider) body = .ok []) : Means provider (.answered code body) (.error (.noAnswer provider))
  | told {code : Nat} {body : String} (success : 200 ≤ code ∧ code ≤ 299) {text : String} {others : List String}
    (read : decode (offers provider) body = .ok (text :: others)) : Means provider (.answered code body) (.ok text)

theorem body_answered (provider : Provider) (code : Nat) (body : String) :
    (Reply.answered code body).body provider =
      if 200 ≤ code ∧ code ≤ 299 then .ok body else .error (.status provider code body) := by
  simp [Reply.body, Nat.lt_succ_iff]

section Body

variable {provider : Provider} {body : String}

theorem answerOf_unreadable {fault : Fault} (read : decode (offers provider) body = .error fault) :
    answerOf provider body = .error (.unreadable fault) := by
  simp [answerOf, read, Except.mapError, bind, Except.bind]

theorem answerOf_offered {texts : List String} (read : decode (offers provider) body = .ok texts) :
    answerOf provider body = match texts with
      | [] => .error (.noAnswer provider)
      | text :: _ => .ok text := by
  cases texts <;>
    · simp [answerOf, read, Except.mapError, bind, Except.bind]
      rfl

end Body

/-- A reply means one answer, the one that is read off it. -/
theorem means_iff {provider : Provider} {reply : Reply} {answer : Except AssistFault String} :
    Means provider reply answer ↔ (do answerOf provider (← reply.body provider)) = answer := by
  constructor
  · intro means
    cases means with
    | lost reason => rfl
    | failed body failure =>
      rw [body_answered, if_neg failure]
      rfl
    | unreadable success read =>
      rw [body_answered, if_pos success]
      exact answerOf_unreadable read
    | empty success read | told success read =>
      rw [body_answered, if_pos success]
      exact answerOf_offered read
  · rintro rfl
    cases reply with
    | lost reason => exact .lost reason
    | answered code body =>
      rw [body_answered]
      split
      next success =>
        show Means provider _ (answerOf provider body)
        cases read : decode (offers provider) body with
        | error fault => exact answerOf_unreadable read ▸ .unreadable success read
        | ok texts =>
          have answer := answerOf_offered read
          cases texts with
          | nil => exact answer ▸ .empty success read
          | cons text others => exact answer ▸ .told success read
      next failure => exact .failed body failure

/-- A reply that settles a request: it is not lost, and no fault of the server and no refusal of a further request. -/
def Decisive : Reply → Prop
  | .lost _ => False
  | .answered code _ => ¬ (500 ≤ code ∧ code ≤ 599) ∧ code ≠ 429

theorem transient_iff {reply : Reply} : reply.transient = true ↔ ¬ Decisive reply := by
  cases reply with
  | lost reason => simp [Reply.transient, Decisive]
  | answered code body =>
    simp only [Reply.transient, Decisive, Bool.or_eq_true, Bool.and_eq_true, decide_eq_true_eq, beq_iff_eq]
    omega

/-- What happens between a model and its provider. -/
inductive Exchange where
  | asked (request : Request) (reply : Reply)
  | waited (seconds : Nat)

/-- The replies that are still to come, without end, and what has happened. -/
structure Playback where
  script : Nat → Reply
  talk : List Exchange := []

/-- Every request gets the next reply. -/
def Playback.transport : Transport Playback where
  send request := fun p =>
    (p.script 0, { script := fun n => p.script (n + 1), talk := p.talk ++ [.asked request (p.script 0)] })
  wait seconds := fun p => ((), { p with talk := p.talk ++ [.waited seconds] })

/-- The `k`-th reply of a script is the last one that is asked for: the first that is decisive, or the last that may
be asked for. -/
structure Settles (script : Nat → Reply) (limit k : Nat) : Prop where
  within : k < limit
  before : ∀ i < k, ¬ Decisive (script i)
  last : Decisive (script k) ∨ k + 1 = limit

/-- What happens up to the `k`-th reply of a script: the same request again after each pause. -/
def conversation (request : Request) : (pauses : List Nat) → (script : Nat → Reply) → (k : Nat) → List Exchange
  | pause :: rest, script, k + 1 =>
    .asked request (script 0) :: .waited pause :: conversation request rest (fun n => script (n + 1)) k
  | _, script, _ => [.asked request (script 0)]

/-- After a pause the rest of the script is played to the remaining pauses. -/
theorem ask_settles (request : Request) (pauses : List Nat) (script : Nat → Reply) (talk : List Exchange) :
    ∃ k, Settles script (pauses.length + 1) k ∧ ask Playback.transport request pauses ⟨script, talk⟩ =
      (script k, ⟨fun n => script (n + (k + 1)), talk ++ conversation request pauses script k⟩) := by
  induction pauses generalizing script talk with
  | nil => exact ⟨0, ⟨Nat.zero_lt_one, nofun, .inr rfl⟩, rfl⟩
  | cons pause rest ih =>
    by_cases decisive : Decisive (script 0)
    · have lasting : (script 0).transient = false := eq_false_of_ne_true fun passing =>
        transient_iff.mp passing decisive
      refine ⟨0, ⟨Nat.succ_pos _, nofun, .inl decisive⟩, ?_⟩
      simp [ask, stateM_bind, stateM_pure, Playback.transport, lasting, conversation]
    · have passing := transient_iff.mpr decisive
      obtain ⟨k, settles, asked⟩ := ih (fun n => script (n + 1))
        (talk ++ [.asked request (script 0)] ++ [.waited pause])
      refine ⟨k + 1, ⟨Nat.succ_lt_succ settles.within, ?_, ?_⟩, ?_⟩
      · intro i earlier
        cases i with
        | zero => exact decisive
        | succ i => exact settles.before i (Nat.lt_of_succ_lt_succ earlier)
      · exact settles.last.imp_right (congrArg (· + 1))
      · have step : ask Playback.transport request (pause :: rest) ⟨script, talk⟩ =
            ask Playback.transport request rest
              ⟨fun n => script (n + 1), talk ++ [.asked request (script 0)] ++ [.waited pause]⟩ := by
          simp [ask, stateM_bind, Playback.transport, passing]
        rw [step, asked, conversation, List.append_assoc, List.append_assoc]
        rfl

/-- Replies that may pass are asked for again, and no others. -/
theorem transient_replies_retried (m : LanguageModel) (system prompt : String) :
    (∀ script : Nat → Reply, ∃ k answer, Settles script 3 k ∧
      m.complete Playback.transport system prompt { script } = (answer,
        ⟨fun n => script (n + (k + 1)), conversation (m.request system prompt) [1, 2] script k⟩) ∧
      ∀ other, Means m.provider (script k) other ↔ answer = other) ∧
    ∀ (v : Value) (o : Layout) (blank : List Char), v.Legible → (∀ c ∈ blank, isSpace c = true) →
      ∀ texts, decode (offers m.provider) (String.ofList (v.laid o 0 ++ blank)) = .ok texts ↔
        Offers m.provider v texts := by
  constructor
  · intro script
    obtain ⟨k, settles, asked⟩ := ask_settles (m.request system prompt) pauses script []
    refine ⟨k, do answerOf m.provider (← (script k).body m.provider), settles, ?_, fun other => means_iff⟩
    simp only [complete, stateM_bind, asked, stateM_pure, List.nil_append]
    rfl
  · intro v o blank legible spaces texts
    rw [decode_laid_blank (offers m.provider) o 0 legible spaces]
    exact offers_ok_iff (by decide) m.provider

/-- After a fault of the server and a lost reply, the third reply is the last, and its first choice the answer. -/
theorem third_reply_told :
    let m : LanguageModel := ⟨.openAI, "key", "model"⟩
    let message (content : String) : Value := .record [("role", .text "assistant"), ("content", .text content)]
    let offer (content : String) : Value := .record [("message", message content)]
    let v : Value := .record [("id", .text "1"), ("choices", .list [offer "first", offer "second"])]
    let body := String.ofList (v.laid .pretty 0 ++ ['\n'])
    let script : Nat → Reply
      | 0 => .answered 503 "busy"
      | 1 => .lost "reset"
      | _ => .answered 200 body
    let r := m.request "system" "prompt"
    m.complete Playback.transport "system" "prompt" { script } = (.ok "first", {
      script := fun n => script (n + 3)
      talk := [.asked r (.answered 503 "busy"), .waited 1, .asked r (.lost "reset"), .waited 2,
        .asked r (.answered 200 body)] }) := by
  intro m message offer v body script r
  obtain ⟨retried, read⟩ := transient_replies_retried m "system" "prompt"
  obtain ⟨k, answer, settles, ran, means⟩ := retried script
  have busy : ¬ Decisive (script 0) := by simp [script, Decisive]
  have lost : ¬ Decisive (script 1) := id
  obtain rfl : k = 2 := by
    have within := settles.within
    by_contra other
    obtain rfl | rfl : k = 0 ∨ k = 1 := by omega
    · exact settles.last.elim busy (by decide)
    · exact settles.last.elim lost (by decide)
  have chosen (content : String) : ∃ message, Only "message" (offer content) message ∧
      Only "content" message (.text content) :=
    ⟨message content, .named (by simp), .named (by simp)⟩
  have offered : Offers .openAI v ["first", "second"] :=
    .choices (.named (by simp)) (.cons (chosen "first") (.cons (chosen "second") .nil))
  have legible : v.Legible := by simp [v, offer, message, Value.Legible]
  have told := (read v .pretty ['\n'] legible (List.forall_mem_singleton.mpr rfl) _).mpr offered
  have success : 200 ≤ 200 ∧ 200 ≤ 299 := by omega
  obtain rfl := (means _).mp (.told success told)
  exact ran

end LanguageModel

end WidgetRepair
