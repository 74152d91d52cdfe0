import Mathlib.Data.Finset.Card
import SealedChunk.Proofs.Map.Insertion

/-!
# What a map keeps of its history

A map comes about by insertions, one after the other, and what it is in the end depends on all of
them.  Of this history it keeps, for each name, the place of the first insertion and the value of
the last; everything else is forgotten.  So the history has a summary, a list without repetitions
that is written down with no map in sight, and the map is its summary: the entries are the same, and
two histories lead to one map exactly if they have one summary.

While a history is carried out, each insertion hands out the value that it replaces.  What stands
there at that time is the summary of the insertions before it, so what is handed out is the value
that the name was given last.

* `lastValue?`, `summary` — what is kept.
* `exchangeAll` — a history carried out step by step, with all that is handed out.
* `exchange_ofList` — one step, behind any history.
* `exchangeAll_empty` — all of them.
* **`exchangeAll_summarises`** — the history carried out, and what is left of it.
-/

namespace SealedChunk.OrderedMap

variable {α : Type}

/-- The value that a history gives a name last. -/
def lastValue? (history : List (String × α)) (name : String) : Option α :=
  (history.filter fun entry => entry.1 = name).getLast?.map Prod.snd

/-- The names of a history where it gives them first, each with the value that it gives it last. -/
def summary (history : List (String × α)) : List (String × α) :=
  (history.map Prod.fst).eraseDups.filterMap fun name =>
    (lastValue? history name).map fun value => (name, value)

/-- Carries out a history step by step.  What each insertion hands out is kept in a list. -/
def exchangeAll (m : OrderedMap α) : List (String × α) → List (Option α) × OrderedMap α
  | [] => ([], m)
  | entry :: rest =>
    let (previous, m) := m.exchange entry.1 entry.2
    let (others, m) := exchangeAll m rest
    (previous :: others, m)

/-! ## The last value -/

lemma lastValue?_concat (history : List (String × α)) (entry : String × α) (name : String) :
    lastValue? (history ++ [entry]) name
      = if entry.1 = name then some entry.2 else lastValue? history name := by
  rw [lastValue?, List.filter_append]
  split_ifs with h <;> simp [lastValue?, h]

/-- A look-up finds the value that was given last. -/
theorem find?_ofList_eq_lastValue? (history : List (String × α)) (name : String) :
    (ofList history).find? name = lastValue? history name := by
  induction history using List.reverseRecOn with
  | nil => rfl
  | append_singleton history entry ih =>
    rw [ofList_concat, find?_insert, ih, lastValue?_concat]

/-! ## The first place -/

/-- The names that a list names, in the order in which it names them first. -/
lemma pairwise_idxOf_eraseDups (names : List String) :
    names.eraseDups.Pairwise fun a b => names.idxOf a < names.idxOf b := by
  induction names using List.reverseRecOn with
  | nil => exact List.Pairwise.nil
  | append_singleton names name ih =>
    -- a name that is there already keeps its place when the list goes on
    have hkept : names.eraseDups.Pairwise
        fun a b => (names ++ [name]).idxOf a < (names ++ [name]).idxOf b := by
      refine ih.imp_of_mem fun ha hb hlt => ?_
      rw [List.mem_eraseDups] at ha hb
      rwa [List.idxOf_append_of_mem ha, List.idxOf_append_of_mem hb]
    rw [eraseDups_concat]
    split_ifs with hname
    · exact hkept
    · refine List.pairwise_append.2 ⟨hkept, List.pairwise_singleton _ _, fun a ha b hb => ?_⟩
      rw [List.mem_eraseDups] at ha
      rw [List.mem_singleton] at hb
      subst hb
      rw [List.idxOf_append_of_mem ha, List.idxOf_append_of_notMem hname]
      exact Nat.lt_add_right _ (List.idxOf_lt_length_iff.2 ha)

lemma mem_names_ofList (history : List (String × α)) (name : String) :
    name ∈ (ofList history).names ↔ name ∈ history.map Prod.fst := by
  rw [names_ofList, List.mem_eraseDups]

lemma contains_iff_mem_names (m : OrderedMap α) (name : String) :
    m.contains name = true ↔ name ∈ m.names := by
  rw [contains, Option.isSome_iff_exists, names, List.mem_map]
  constructor
  · rintro ⟨value, h⟩
    exact ⟨(name, value), m.find?_eq_some_iff.1 h, rfl⟩
  · rintro ⟨⟨_, value⟩, h, rfl⟩
    exact ⟨value, m.find?_eq_some_iff.2 h⟩

lemma size_ofList (history : List (String × α)) :
    (ofList history).size = (history.map Prod.fst).toFinset.card := by
  have hnames : (ofList history).names.toFinset = (history.map Prod.fst).toFinset := by
    ext name
    rw [List.mem_toFinset, List.mem_toFinset, mem_names_ofList]
  have hnodup : (ofList history).names.Nodup := (ofList history).nodup
  rw [← hnames, List.toFinset_card_of_nodup hnodup, names, List.length_map, size]

/-! ## The summary -/

/-- The entries of a map are its names, each with what it finds. -/
lemma entries_eq_filterMap (m : OrderedMap α) :
    m.entries = m.names.filterMap fun name => (m.find? name).map fun value => (name, value) := by
  rw [names, List.filterMap_map]
  calc m.entries = m.entries.filterMap some := List.filterMap_some.symm
    _ = _ := List.filterMap_congr fun entry hentry => by
      rw [Function.comp_apply, m.find?_eq_some_iff.2 hentry]
      rfl

/-- **What is left of a history is its summary.** -/
theorem entries_ofList_eq_summary (history : List (String × α)) :
    (ofList history).entries = summary history := by
  rw [entries_eq_filterMap, names_ofList, summary]
  simp only [find?_ofList_eq_lastValue?]

lemma ofList_eq_ofList_iff (history other : List (String × α)) :
    ofList history = ofList other ↔ summary history = summary other := by
  rw [← entries_ofList_eq_summary, ← entries_ofList_eq_summary]
  exact ⟨congrArg entries, ext⟩

/-! ## Step by step -/

/-- One more insertion hands out the value that the history before it gave the name last. -/
theorem exchange_ofList (history : List (String × α)) (entry : String × α) :
    (ofList history).exchange entry.1 entry.2
      = (lastValue? history entry.1, ofList (history ++ [entry])) := by
  rw [exchange_eq, find?_ofList_eq_lastValue?, ofList_concat]

lemma exchangeAll_cons (m : OrderedMap α) (entry : String × α) (rest : List (String × α)) :
    exchangeAll m (entry :: rest)
      = ((m.exchange entry.1 entry.2).1 :: (exchangeAll (m.exchange entry.1 entry.2).2 rest).1,
          (exchangeAll (m.exchange entry.1 entry.2).2 rest).2) :=
  rfl

lemma exchangeAll_concat (m : OrderedMap α) (history : List (String × α)) (entry : String × α) :
    exchangeAll m (history ++ [entry])
      = ((exchangeAll m history).1 ++ [((exchangeAll m history).2.exchange entry.1 entry.2).1],
          ((exchangeAll m history).2.exchange entry.1 entry.2).2) := by
  induction history generalizing m with
  | nil => rfl
  | cons first rest ih =>
    rw [List.cons_append, exchangeAll_cons, exchangeAll_cons, ih]
    rfl

/-- Each insertion hands out what the ones before it gave its name last. -/
theorem exchangeAll_empty (history : List (String × α)) :
    exchangeAll empty history
      = (history.mapIdx fun i entry => lastValue? (history.take i) entry.1, ofList history) := by
  induction history using List.reverseRecOn with
  | nil => rfl
  | append_singleton history entry ih =>
    have hbefore : (history.mapIdx fun i e => lastValue? ((history ++ [entry]).take i) e.1)
        = history.mapIdx fun i e => lastValue? (history.take i) e.1 := by
      rw [List.mapIdx_eq_mapIdx_iff]
      intro i hi
      rw [List.take_append_of_le_length hi.le]
    rw [exchangeAll_concat, ih, exchange_ofList, List.mapIdx_concat, hbefore, List.take_left]

/-- **A map is the summary of its history.**  Carried out step by step from the empty map, a history
leads to the map that is built from it at once, and each insertion hands out the value that its name
was given last before it, if any.  The map has the names of the history, none of them twice, in the
order in which they are given first, and as many as there are.  Each of them, and no other, is found
with the value that it is given last.  Histories lead to the same map exactly if they have the same
summary. -/
theorem exchangeAll_summarises (history : List (String × α)) :
    exchangeAll empty history
        = (history.mapIdx fun i entry => lastValue? (history.take i) entry.1, ofList history)
      ∧ (ofList history).entries = summary history
      ∧ (ofList history).names.Nodup
      ∧ ((ofList history).names.Pairwise fun a b =>
          (history.map Prod.fst).idxOf a < (history.map Prod.fst).idxOf b)
      ∧ (ofList history).size = (history.map Prod.fst).toFinset.card
      ∧ (∀ name, (ofList history).find? name = lastValue? history name)
      ∧ (∀ name, (ofList history).contains name = true ↔ name ∈ history.map Prod.fst)
      ∧ ∀ other, ofList history = ofList other ↔ summary history = summary other := by
  refine ⟨exchangeAll_empty history, entries_ofList_eq_summary history, (ofList history).nodup, ?_,
    size_ofList history, find?_ofList_eq_lastValue? history, fun name => ?_,
    ofList_eq_ofList_iff history⟩
  · rw [names_ofList]
    exact pairwise_idxOf_eraseDups _
  · rw [contains_iff_mem_names, mem_names_ofList]

/-- A name that is given again keeps its place and hands out its first value. -/
example : exchangeAll empty [("a", 1), ("b", 2), ("a", 3)]
    = ([none, none, some 1], ofList [("a", 3), ("b", 2)]) := by decide

end SealedChunk.OrderedMap
