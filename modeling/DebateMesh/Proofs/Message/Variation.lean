import DebateMesh.Proofs.Json.Grammar
import DebateMesh.Proofs.Message.Json

namespace DebateMesh.Message

open Json (Record Members)

/-- A text of such an object is read as the message by every reader that takes its kind. -/
theorem ofBytes_of_varies {m : Message} {v : Json} {cs : List Char} (hv : m.isValid = true)
    (varied : m.Varies v) (spelled : Json.Document v cs)
    {choose : String → Except ReadFault Kind} (hk : choose m.kind.tag = .ok m.kind) :
    ofBytes choose (Utf8.encodeChars cs) = .ok m := by
  obtain ⟨ms, rfl, htype, hof⟩ := ofMembers_record varied
  have hfault : m.fault? = none := Option.isNone_iff_eq_none.mp hv
  rw [ofBytes, Json.decode, Utf8.decodeChars_encodeChars, Option.bind_some,
    Json.ofChars_iff.mpr spelled]
  simp only [Json.member?, htype, Option.bind_some, Json.str?, hk, ofTagged, hof, hfault]

/-- Every text of a valid message's object, with the members of its records in any order, others of
any other names among them, defaults left out, and blanks between the words, is read as the
message. -/
theorem varied_texts_are_read {m : Message} {v : Json} {cs : List Char} (hv : m.isValid = true)
    (varied : m.Varies v) (spelled : Json.Document v cs) :
    decode (Utf8.encodeChars cs) = .ok m ∧ decodeAs m.kind (Utf8.encodeChars cs) = .ok m := by
  constructor
  · apply ofBytes_of_varies hv varied spelled
    cases m <;> rfl
  · exact ofBytes_of_varies hv varied spelled (if_pos rfl)

/-- An opening packet whose metadata are the defaults. -/
def thesis : Message :=
  .debate { sessionId := "s", round := 1, role := .proposer, content := "text" }

def thesisMembers : Members :=
  [("type", .str "debate"), ("content", .str "text"), ("metadata", .obj [("model", .str "m")]),
    ("role", .str "proposer"), ("round", .int 1), ("session_id", .str "s")]

/-- Its object back to front, with members of other names and without its metadata's own. -/
def thesisObject : Json :=
  .obj (thesisMembers ++ [("seen", Json.arr [.int 1, .obj [("a", .null)]])]).reverse

def thesisText : List Char :=
  " \x7b \"seen\" : [1, \x7b\"a\":null\x7d ] , \"session_id\":\"s\",\"round\": 1,
    \"role\":\"proposer\", \"metadata\":\x7b\"model\":\"m\"\x7d,\t\"content\":\"te\\u0078t\",
    \"type\":\"debate\"\x7d\n".toList

theorem thesis_varies : thesis.Varies thesisObject := by
  have hm : Record ({} : Metadata).slots (.obj [("model", .str "m")]) :=
    ⟨_, rfl, [], [("model", .str "m")], .drop rfl (.drop rfl .nil), by decide, .refl _⟩
  refine ⟨_, rfl, thesisMembers, _, ?_, ?_, List.reverse_perm _⟩
  · exact .keep rfl (.keep rfl (.keep hm (.keep rfl (.keep rfl (.keep rfl .nil)))))
  · decide

theorem varied_texts_are_read_thesis : thesis.isValid = true ∧ thesis.Varies thesisObject ∧
    Json.Document thesisObject thesisText ∧
    decode (Utf8.encodeChars thesisText) = .ok thesis ∧
      decodeAs thesis.kind (Utf8.encodeChars thesisText) = .ok thesis := by
  have hv : thesis.isValid = true := by decide +kernel
  have hread : Json.ofChars thesisText = some thesisObject := by decide +kernel
  have hspelled := Json.ofChars_iff.mp hread
  exact ⟨hv, thesis_varies, hspelled, varied_texts_are_read hv thesis_varies hspelled⟩

end DebateMesh.Message
