import WidgetRepair.Knowledge.File
import WidgetRepair.Proofs.ByteLines
import WidgetRepair.Proofs.DocumentText

/-! The line that an entry of the knowledge is written as: it is one line, and the entry is read back
from it. -/

namespace WidgetRepair

open Json Source

namespace Text

/-- A byte below 128 belongs to one character only. -/
theorem toNat_of_mem {c : Char} {b : UInt8} (ascii : b.toNat < 128)
    (member : b ∈ String.utf8EncodeChar c) : c.toNat = b.toNat := by
  have byte {n : Nat} (less : n < 256) (same : b = UInt8.ofNat n) : n = b.toNat := by
    rw [same, UInt8.toNat_ofNat_of_lt' less]
  have high {n : Nat} (low : 128 ≤ n) (less : n < 256) : b ≠ UInt8.ofNat n := fun same => by
    have := byte less same
    omega
  unfold String.utf8EncodeChar at member
  dsimp only at member
  split at member
  next small =>
    have less : c.val.toNat < 256 := by omega
    exact byte less (List.mem_singleton.mp member)
  split at member
  next =>
    simp only [List.mem_cons, List.not_mem_nil, or_false] at member
    rcases member with same | same <;> exact absurd same (high (by omega) (by omega))
  split at member
  next =>
    simp only [List.mem_cons, List.not_mem_nil, or_false] at member
    rcases member with same | same | same <;> exact absurd same (high (by omega) (by omega))
  next =>
    simp only [List.mem_cons, List.not_mem_nil, or_false] at member
    rcases member with same | same | same | same <;> exact absurd same (high (by omega) (by omega))

theorem toList_toUTF8 (s : String) : s.toUTF8.toList = s.toList.flatMap String.utf8EncodeChar := by
  rw [String.toUTF8_eq_toByteArray, ← String.utf8Encode_toList, List.utf8Encode, toList_toByteArray]

theorem mem_toUTF8 {s : String} {b : UInt8} (ascii : b.toNat < 128) (member : b ∈ s.toUTF8.toList) :
    ∃ c ∈ s.toList, c.toNat = b.toNat := by
  rw [toList_toUTF8, List.mem_flatMap] at member
  obtain ⟨c, inside, byte⟩ := member
  exact ⟨c, inside, toNat_of_mem ascii byte⟩

end Text

/-- A text in which no control character stands, line ends among them. -/
def Uncontrolled (text : List Char) : Prop := ∀ c ∈ text, 32 ≤ c.toNat

@[simp] theorem uncontrolled_nil : Uncontrolled [] := List.forall_mem_nil _

@[simp] theorem uncontrolled_cons {c : Char} {rest : List Char} :
    Uncontrolled (c :: rest) ↔ 32 ≤ c.toNat ∧ Uncontrolled rest := List.forall_mem_cons

@[simp] theorem uncontrolled_append {front back : List Char} :
    Uncontrolled (front ++ back) ↔ Uncontrolled front ∧ Uncontrolled back := List.forall_mem_append

namespace Json

theorem escapeChar_uncontrolled (c : Char) : Uncontrolled (escapeChar c) := by
  intro d member
  have escaped := escapeChar_escaped c
  generalize escapeChar c = text at escaped member
  by_contra control
  have other {e : Char} (printable : 32 ≤ e.toNat) : d ≠ e := fun same => control (same ▸ printable)
  cases escaped with
  | short letter stands =>
    simp only [List.mem_cons, List.not_mem_nil, or_false] at member
    rcases member with slash | rfl
    · exact other (by decide) slash
    · simp [shortEscape?, other] at stands
  | hex _ stands =>
    have none : hexValue? d = none := by simp only [hexValue?]; grind
    simp only [List.mem_cons, List.not_mem_nil, or_false] at member
    rcases member with same | same | same | same | rfl | rfl
    · exact other (by decide) same
    · exact other (by decide) same
    · exact other (by decide) same
    · exact other (by decide) same
    · simp [hex4?, none] at stands
    · simp [hex4?, none] at stands
  | plain quote backslash printable => exact control (List.mem_singleton.mp member ▸ printable)

@[simp] theorem quoted_uncontrolled (s : String) : Uncontrolled (quoted s) := by
  have inner : Uncontrolled (s.toList.flatMap escapeChar) := fun c member => by
    obtain ⟨d, _, escaped⟩ := List.mem_flatMap.mp member
    exact escapeChar_uncontrolled d c escaped
  simp [quoted, inner]

@[simp] theorem items_uncontrolled (texts : List String) :
    Uncontrolled (Value.compactItems (texts.map .text)) := by
  induction texts with
  | nil => simp [Value.compactItems]
  | cons s rest ih => cases rest <;> simp_all [Value.compactItems, Value.compact]

end Json

namespace KnowledgeEntry

theorem compact_uncontrolled (e : KnowledgeEntry) : Uncontrolled e.toJson.compact := by
  simp [toJson, Timestamp.toJson, Value.ofTexts, Value.compact, Value.compactFields]

/-- No byte of a written entry ends a line or belongs to the end of one. -/
theorem render_bytes (e : KnowledgeEntry) : ∀ b ∈ e.toJson.render.toUTF8.toList, 32 ≤ b.toNat := by
  intro b member
  by_contra control
  obtain ⟨c, inside, same⟩ := Text.mem_toUTF8 (by omega) member
  rw [Value.render, String.toList_ofList] at inside
  exact control (same ▸ e.compact_uncontrolled c inside)

theorem render_some (e : KnowledgeEntry) : e.toJson.render.toUTF8.toList ≠ [] := by
  rw [Text.toList_toUTF8, Value.render, String.toList_ofList, toJson, Value.compact, List.flatMap_cons]
  exact List.append_ne_nil_of_left_ne_nil (by decide) _

theorem lineOf_bytes (e : KnowledgeEntry) :
    (Knowledge.lineOf e).toUTF8.toList = e.toJson.render.toUTF8.toList ++ [10] := by
  rw [Knowledge.lineOf, Text.toList_toUTF8, String.toList_append, List.flatMap_append, ← Text.toList_toUTF8]
  rfl

theorem render_one_line (e : KnowledgeEntry) : 10 ∉ e.toJson.render.toUTF8.toList := fun member =>
  absurd (e.render_bytes 10 member) (by decide)

/-- A written entry ends with no carriage return, so it is the whole line. -/
theorem endedLine_render (front : List UInt8) (e : KnowledgeEntry) :
    Text.endedLine (front ++ e.toJson.render.toUTF8.toList) =
      front.toByteArray ++ e.toJson.render.toUTF8 := by
  have last : (front ++ e.toJson.render.toUTF8.toList).getLast? ≠ some 13 := by
    rw [List.getLast?_append_of_ne_nil _ e.render_some]
    intro same
    exact absurd (e.render_bytes 13 (List.mem_of_getLast? same)) (by decide)
  rw [Text.endedLine, if_neg last, List.toByteArray_append, Text.toByteArray_toList]

theorem legible_toJson (e : KnowledgeEntry) : e.toJson.Legible := by
  simp [toJson, Value.Legible, Timestamp.toJson]

theorem read_toJson {room : Nat} (inside : 2 < room) {e : KnowledgeEntry} (moment : e.timestamp.Valid) :
    read ⟨room, e.toJson.draft⟩ = .ok e := by
  have tags := texts_draft (show 1 < room - 1 by omega) e.tags
  have time := parsed_draft (room - 1) (Timestamp.ofText?_toText moment)
  have tier : choice Tier.ofName? (⟨room - 1, (Value.text e.tier.name).draft⟩ : Place) = .ok e.tier :=
    choice_draft (by cases e.tier <;> rfl)
  refine recordOf_draft (by omega)
    ⟨some e.title, some e.category, some e.content, some e.provenance, some e.timestamp, some e.tier,
      some e.tags⟩ ?_ rfl
  simp [namedFields, EntryFields.all, Field.of, bind, Except.bind, pure, Except.pure, Timestamp.toJson, tags,
    time, tier]

theorem decode_line {e : KnowledgeEntry} (moment : e.timestamp.Valid) :
    decode read e.toJson.render = .ok e :=
  (decode_render read (legible_toJson e)).trans (read_toJson (by decide) moment)

end KnowledgeEntry

end WidgetRepair
