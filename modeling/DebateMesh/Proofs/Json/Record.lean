import DebateMesh.Json.Shape

namespace DebateMesh.Json

/-- A field of a record: its name, whether it may be left out, and what it may be written as. -/
structure Slot where
  name : String
  optional : Prop
  written : Json → Prop

namespace Slot

/-- A field that is always written, as this value. -/
def fixed (name : String) (v : Json) : Slot := ⟨name, False, (· = v)⟩

/-- A field that may be left out when it holds its default. -/
def defaulted (name : String) (isDefault : Prop) (v : Json) : Slot := ⟨name, isDefault, (· = v)⟩

end Slot

/-- The members of a record in the order of its fields, without some that may be left out. -/
inductive Kept : List Slot → Members → Prop
  | nil : Kept [] []
  | keep {s : Slot} {ss : List Slot} {ms : Members} {v : Json} (written : s.written v)
      (rest : Kept ss ms) : Kept (s :: ss) ((s.name, v) :: ms)
  | drop {s : Slot} {ss : List Slot} {ms : Members} (optional : s.optional) (rest : Kept ss ms) :
      Kept (s :: ss) ms

/-- The members of a record in any order, with others of any other names among them. -/
def Fills (ss : List Slot) (ms : Members) : Prop :=
  ∃ kept added, Kept ss kept ∧ (∀ a ∈ added, a.1 ∉ ss.map Slot.name) ∧ ms.Perm (kept ++ added)

def Record (ss : List Slot) (v : Json) : Prop := ∃ ms, v = .obj ms ∧ Fills ss ms

variable {α : Type} {ss : List Slot} {s : Slot} {ms : Members}

/-- The field is there as it may be written, or it is not there and may be left out. -/
def Stands (ms : Members) (s : Slot) : Prop :=
  (∃ v, lookup? ms s.name = some v ∧ s.written v) ∨ (lookup? ms s.name = none ∧ s.optional)

theorem lookup?_of_unique {name : String} {v : Json} (hmem : (name, v) ∈ ms)
    (hu : ∀ m ∈ ms, m.1 = name → m.2 = v) : lookup? ms name = some v := by
  unfold lookup?
  cases hfind : ms.reverse.find? fun m => m.1 == name with
  | none =>
    have hmiss := List.find?_eq_none.mp hfind _ (List.mem_reverse.mpr hmem)
    exact absurd (beq_self_eq_true name) hmiss
  | some m =>
    have hname := List.find?_some hfind
    have hm := List.mem_reverse.mp (List.mem_of_find?_eq_some hfind)
    exact congrArg some (hu m hm (beq_iff_eq.mp hname))

theorem lookup?_of_absent {name : String} (h : ∀ m ∈ ms, m.1 ≠ name) : lookup? ms name = none := by
  rw [lookup?, Option.map_eq_none_iff, List.find?_eq_none]
  intro m hm
  rw [beq_iff_eq]
  exact h m (List.mem_reverse.mp hm)

theorem Kept.name_mem (h : Kept ss ms) : ∀ m ∈ ms, m.1 ∈ ss.map Slot.name := by
  induction h with
  | nil => exact List.forall_mem_nil _
  | keep _ _ ih =>
    rw [List.forall_mem_cons]
    exact ⟨List.mem_cons_self, fun m hm => List.mem_cons_of_mem _ (ih m hm)⟩
  | drop _ _ ih => exact fun m hm => List.mem_cons_of_mem _ (ih m hm)

/-- Of each field there is one member, or none if it may be left out. -/
theorem Kept.member (h : Kept ss ms) (hn : (ss.map Slot.name).Nodup) (hs : s ∈ ss) :
    (∃ v, s.written v ∧ (s.name, v) ∈ ms ∧ ∀ m ∈ ms, m.1 = s.name → m.2 = v) ∨
      (s.optional ∧ ∀ m ∈ ms, m.1 ≠ s.name) := by
  induction h with
  | nil => cases hs
  | @keep t ss ms w written rest ih =>
    obtain ⟨hnew, hn⟩ := List.nodup_cons.mp hn
    have hother : ∀ m ∈ ms, m.1 ≠ t.name := fun m hm heq => hnew (heq ▸ rest.name_mem m hm)
    rcases List.mem_cons.mp hs with rfl | hs
    · refine Or.inl ⟨w, written, List.mem_cons_self, ?_⟩
      rw [List.forall_mem_cons]
      exact ⟨fun _ => rfl, fun m hm heq => absurd heq (hother m hm)⟩
    · have hne : t.name ≠ s.name := fun heq => hnew (heq ▸ List.mem_map_of_mem hs)
      rcases ih hn hs with ⟨v, hv, hmem, hu⟩ | ⟨hopt, habsent⟩
      · refine Or.inl ⟨v, hv, List.mem_cons_of_mem _ hmem, ?_⟩
        rw [List.forall_mem_cons]
        exact ⟨fun heq => absurd heq hne, hu⟩
      · refine Or.inr ⟨hopt, ?_⟩
        rw [List.forall_mem_cons]
        exact ⟨hne, habsent⟩
  | drop optional rest ih =>
    obtain ⟨hnew, hn⟩ := List.nodup_cons.mp hn
    rcases List.mem_cons.mp hs with rfl | hs
    · exact Or.inr ⟨optional, fun m hm heq => hnew (heq ▸ rest.name_mem m hm)⟩
    · exact ih hn hs

theorem Fills.stands (h : Fills ss ms) (hn : (ss.map Slot.name).Nodup) : ∀ s ∈ ss, Stands ms s := by
  obtain ⟨kept, added, hkept, hadded, hperm⟩ := h
  intro s hs
  have hother : ∀ a ∈ added, a.1 ≠ s.name := fun a ha heq =>
    hadded a ha (heq ▸ List.mem_map_of_mem hs)
  rcases hkept.member hn hs with ⟨v, hv, hmem, hu⟩ | ⟨hopt, habsent⟩
  · refine Or.inl ⟨v, lookup?_of_unique ?_ ?_, hv⟩
    · exact hperm.mem_iff.mpr (List.mem_append_left _ hmem)
    · intro m hm heq
      rcases List.mem_append.mp (hperm.mem_iff.mp hm) with hm | hm
      · exact hu m hm heq
      · exact absurd heq (hother m hm)
  · refine Or.inr ⟨lookup?_of_absent fun m hm => ?_, hopt⟩
    rcases List.mem_append.mp (hperm.mem_iff.mp hm) with hm | hm
    · exact habsent m hm
    · exact hother m hm

/-- Whatever the order, and whatever else there is, each field is found. -/
theorem Record.stands {v : Json} (h : Record ss v) (hn : (ss.map Slot.name).Nodup) :
    ∃ ms, v = .obj ms ∧ ∀ s ∈ ss, Stands ms s := by
  obtain ⟨ms, rfl, hms⟩ := h
  exact ⟨ms, rfl, hms.stands hn⟩

theorem field?_present {name : String} {shape : Shape α} {v : Json} {a : α}
    (ha : shape v = .ok a) (hv : lookup? ms name = some v) :
    field? ms name shape = .ok (some a) := by
  rw [field?, hv]
  simp only [ha, Except.map]

/-- A field that must be there is read. -/
theorem Stands.required {shape : Shape α} {a : α} (h : Stands ms s) (hs : ¬ s.optional)
    (ha : ∀ v, s.written v → shape v = .ok a) : field? ms s.name shape = .ok (some a) := by
  rcases h with ⟨v, hv, written⟩ | ⟨-, optional⟩
  · exact field?_present (ha v written) hv
  · exact absurd optional hs

/-- A field that may be left out is read, or its default is taken. -/
theorem Stands.optional {shape : Shape α} {a d : α} (h : Stands ms s) (hs : s.optional → d = a)
    (ha : ∀ v, s.written v → shape v = .ok a) :
    ∃ o, field? ms s.name shape = .ok o ∧ o.getD d = a := by
  rcases h with ⟨v, hv, written⟩ | ⟨hnone, optional⟩
  · exact ⟨some a, field?_present (ha v written) hv, rfl⟩
  · refine ⟨none, ?_, hs optional⟩
    rw [field?, hnone]

/-- The fields as they stand are one way to fill a record. -/
theorem Kept.fills (h : Kept ss ms) : Fills ss ms :=
  ⟨ms, [], h, List.forall_mem_nil _, by rw [List.append_nil]⟩

end DebateMesh.Json
