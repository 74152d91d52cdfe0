import SealedChunk.Json.Record
import SealedChunk.Json.RoundTrip.Codec

/-!
# Records are read back

A record is written as an object of its fields.  Reading that object sets each written field, in
order, on a blank structure.  So a structure is read back if its fields are carried faithfully and
if it is the blank one with its written fields set; fields that are left out have to hold the value
they have in the blank structure.

* `Field.Carries` — a field does not lose its value.
* `Record.rebuilt` — the blank structure with the written fields set.
* **`Record.faithful_codec`** — the law.
-/

namespace SealedChunk.Json

namespace Field

variable {σ α : Type} {levels : Nat} {m : σ}

/-- The field is written if it has to be there, and if it is written, then faithfully. -/
structure Carries (field : Field σ) (levels : Nat) (m : σ) : Prop where
  written : field.required = true → field.isWritten m = true
  faithful : field.isWritten m = true → field.codec.Faithful levels (field.get m)

variable {name : String} {codec : Codec α} {get : σ → α} {set : α → σ → σ}

theorem carries_needed (h : codec.Faithful levels (get m)) :
    (needed name codec get set).Carries levels m :=
  ⟨fun _ => rfl, fun _ => h⟩

theorem carries_spare (h : codec.Faithful levels (get m)) :
    (spare name codec get set).Carries levels m :=
  ⟨fun _ => rfl, fun _ => h⟩

/-- What is left out need not be carried. -/
theorem carries_sparing {leaveOut : α → Bool}
    (h : leaveOut (get m) = false → codec.Faithful levels (get m)) :
    (sparing name codec get set leaveOut).Carries levels m := by
  refine ⟨by rintro ⟨⟩, ?_⟩
  intro hwritten
  exact h (by simpa [isWritten, sparing] using hwritten)

end Field

namespace Record

variable {σ : Type}

/-- What is left of a structure on its way: the blank one with every written field set. -/
def rebuilt (record : Record σ) (m : σ) : σ :=
  (record.fields.filter (·.isWritten m)).foldl (fun r field => field.set (field.get m) r)
    record.blank

theorem find?_field {fields : List (Field σ)} {field : Field σ}
    (hnames : (fields.map (·.name)).Nodup) (h : field ∈ fields) :
    fields.find? (fun f => f.name == field.name) = some field := by
  induction fields with
  | nil => simp at h
  | cons f fields ih =>
    simp only [List.map_cons, List.nodup_cons] at hnames
    rcases List.mem_cons.1 h with rfl | h
    · simp
    · have hne : f.name ≠ field.name := fun he =>
        hnames.1 (he ▸ List.mem_map_of_mem h)
      rw [List.find?_cons, show (f.name == field.name) = false by simp [hne]]
      exact ih hnames.2 h

/-- The names of the fields that were read, and the structure, do not depend on each other. -/
theorem foldl_fields (m : σ) (fields : List (Field σ)) (r : σ) (names : List String) :
    fields.foldl
        (fun gathered field => (field.set (field.get m) gathered.1, field.name :: gathered.2))
        (r, names)
      = (fields.foldl (fun r field => field.set (field.get m) r) r,
         (fields.map (·.name)).reverse ++ names) := by
  induction fields generalizing r names with
  | nil => rfl
  | cons field fields ih => simp [ih]

/-- A record is read back if its fields have different names and carry their values, and if the
written ones make up the whole. -/
theorem faithful_codec {record : Record σ} {levels : Nat} {m : σ}
    (hnames : (record.fields.map (·.name)).Nodup)
    (hfields : ∀ field ∈ record.fields, field.Carries levels m)
    (hwhole : record.rebuilt m = m) : record.codec.Faithful (levels + 1) m := by
  refine ⟨rfl, fun rest _ => ?_⟩
  have hsub : (record.fields.filter (·.isWritten m)).Sublist record.fields := List.filter_sublist
  obtain ⟨s, hs, hr⟩ := readObject_writeObject (readMember record.fields levels) Field.name
    (fun field => field.write m)
    (fun gathered field => (field.set (field.get m) gathered.1, field.name :: gathered.2))
    (fun fields gathered => (∀ field ∈ fields, field ∈ record.fields
        ∧ field.isWritten m = true ∧ field.name ∉ gathered.2) ∧ (fields.map (·.name)).Nodup)
    (record.fields.filter (·.isWritten m)) (record.blank, [])
    ⟨fun field h => ⟨hsub.subset h, (List.mem_filter.1 h).2, by simp⟩,
      hnames.sublist (hsub.map _)⟩
    (by
      intro field fields gathered hfits
      obtain ⟨hmem, hnodup⟩ := hfits
      obtain ⟨hfield, hwritten, hnew⟩ := hmem field List.mem_cons_self
      simp only [List.map_cons, List.nodup_cons] at hnodup
      refine ⟨⟨fun f hf => ?_, hnodup.2⟩, fun rest hrest => ?_⟩
      · obtain ⟨h₁, h₂, h₃⟩ := hmem f (List.mem_cons_of_mem field hf)
        refine ⟨h₁, h₂, ?_⟩
        simp only [List.mem_cons, not_or]
        exact ⟨fun he => hnodup.1 (he ▸ List.mem_map_of_mem hf), h₃⟩
      · have hfaithful := (hfields field hfield).faithful hwritten
        have hcolon : skipColon (':' :: (field.write m ++ rest)) = .ok (field.write m ++ rest) :=
          skipColon_of_beginsElement (beginsElement_append rest hfaithful.begins)
        have hread : field.read levels gathered.1 (field.write m ++ rest)
            = .ok (field.set (field.get m) gathered.1, rest) := by
          rw [Field.read, Field.write, hfaithful.reads rest hrest]
          rfl
        rw [List.cons_append, readMember, find?_field hnames hfield]
        simp only [if_neg hnew, hcolon, hread]
        rfl)
    rest
  rw [foldl_fields] at hr
  have hcomplete : complete record.fields
      (((record.fields.filter (·.isWritten m)).map (·.name)).reverse ++ []) = true := by
    simp only [complete, List.all_eq_true, Bool.or_eq_true, Bool.not_eq_true']
    intro field hfield
    cases hneed : field.required with
    | false => exact .inl rfl
    | true =>
      right
      simp only [List.append_nil, List.contains_iff_mem, List.mem_reverse]
      exact List.mem_map_of_mem (List.mem_filter.2 ⟨hfield, (hfields field hfield).written hneed⟩)
  show record.read (levels + 1) (record.write m ++ rest) = _
  rw [write, hs, read, Codec.behindBracket]
  · simp only [if_true, readObjectForm, hr, hcomplete]
    exact congrArg (fun r => Except.ok (r, rest)) hwhole
  · simp

end Record

end SealedChunk.Json
