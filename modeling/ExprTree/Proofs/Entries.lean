import ExprTree.Entries

/-! Keyed entries seen through the lookup of a key: a set key has its new value, all others keep
theirs, and of repeated pairs the last one counts. Where keys do not repeat, their order does not
matter. -/
namespace ExprTree.Entries

@[simp] theorem get?_nil (name : String) : get? ([] : Entries α) name = none := rfl

theorem get?_cons (key : String) (value : α) (rest : Entries α) (name : String) :
    get? ((key, value) :: rest) name = if key = name then some value else get? rest name := by
  unfold get?
  rw [List.find?_cons]
  by_cases same : key = name
  · simp [same]
  · have differs : (key == name) = false := by simpa using same
    simp [same, differs]

theorem get?_set (entries : Entries α) (key : String) (value : α) (name : String) :
    get? (set entries key value) name = if key = name then some value else get? entries name := by
  induction entries with
  | nil => rw [set, get?_cons]
  | cons entry rest ih =>
    obtain ⟨k, v⟩ := entry
    rw [set]
    by_cases known : k = key
    · subst known
      rw [if_pos rfl, get?_cons, get?_cons]
      split <;> rfl
    · rw [if_neg known, get?_cons, get?_cons, ih]
      by_cases here : k = name
      · have other : key ≠ name := fun same => known (here.trans same.symm)
        rw [if_pos here, if_neg other, if_pos here]
      · rw [if_neg here, if_neg here]

private theorem get?_foldl_set (pairs : List (String × α)) (entries : Entries α) (name : String) :
    get? (pairs.foldl (fun entries pair => set entries pair.1 pair.2) entries) name =
      (get? (ofPairs pairs) name).or (get? entries name) := by
  induction pairs generalizing entries with
  | nil => rfl
  | cons pair rest ih =>
    rw [ofPairs, List.foldl_cons, List.foldl_cons, ih, ih (set [] pair.1 pair.2), get?_set,
      get?_set, Option.or_assoc]
    split <;> rfl

/-- Of the pairs with one key the last decides. -/
theorem get?_ofPairs_cons (key : String) (value : α) (rest : List (String × α)) (name : String) :
    get? (ofPairs ((key, value) :: rest)) name =
      (get? (ofPairs rest) name).or (if key = name then some value else none) := by
  rw [ofPairs, List.foldl_cons, get?_foldl_set, get?_set]
  rfl

theorem set_of_fresh {entries : Entries α} {key : String} (fresh : key ∉ keys entries) (value : α) :
    set entries key value = entries ++ [(key, value)] := by
  induction entries with
  | nil => rfl
  | cons entry rest ih =>
    obtain ⟨k, v⟩ := entry
    have other : k ≠ key := fun same => fresh (by simp [keys, same])
    have later : key ∉ keys rest := fun member => fresh (List.mem_cons_of_mem _ member)
    rw [set, if_neg other, ih later, List.cons_append]

theorem keys_set (entries : Entries α) (key : String) (value : α) :
    keys (set entries key value) =
      if key ∈ keys entries then keys entries else keys entries ++ [key] := by
  induction entries with
  | nil => rfl
  | cons entry rest ih =>
    obtain ⟨k, v⟩ := entry
    rw [set]
    by_cases same : k = key
    · simp [keys, same]
    · have other : key ≠ k := fun equal => same equal.symm
      have unchanged : keys ((k, v) :: set rest key value) = k :: keys (set rest key value) := rfl
      rw [if_neg same, unchanged, ih]
      by_cases known : key ∈ keys rest <;> simp_all [keys]

theorem nodup_keys_set {entries : Entries α} (distinct : (keys entries).Nodup) (key : String)
    (value : α) : (keys (set entries key value)).Nodup := by
  rw [keys_set]
  split
  · exact distinct
  · rename_i fresh
    refine List.nodup_append.mpr ⟨distinct, by simp, ?_⟩
    intro first member second last same
    rw [List.mem_singleton.mp last] at same
    exact fresh (same ▸ member)

private theorem nodup_keys_foldl_set (pairs : List (String × α)) {entries : Entries α}
    (distinct : (keys entries).Nodup) :
    (keys (pairs.foldl (fun entries pair => set entries pair.1 pair.2) entries)).Nodup := by
  induction pairs generalizing entries with
  | nil => exact distinct
  | cons pair rest ih => exact ih (nodup_keys_set distinct pair.1 pair.2)

/-- Pairs set in turn leave no key twice. -/
theorem nodup_keys_ofPairs (pairs : List (String × α)) : (keys (ofPairs pairs)).Nodup :=
  nodup_keys_foldl_set pairs List.nodup_nil

theorem mem_of_mem_set {entries : Entries α} {key : String} {value : α} {entry : String × α}
    (member : entry ∈ set entries key value) : entry = (key, value) ∨ entry ∈ entries := by
  induction entries with
  | nil => exact .inl (List.mem_singleton.mp member)
  | cons first rest ih =>
    obtain ⟨k, v⟩ := first
    rw [set] at member
    split at member
    · rename_i same
      subst same
      rcases List.mem_cons.mp member with here | later
      · exact .inl here
      · exact .inr (List.mem_cons_of_mem _ later)
    · rcases List.mem_cons.mp member with here | later
      · exact .inr (here ▸ List.mem_cons_self)
      · exact (ih later).imp id (List.mem_cons_of_mem _)

private theorem mem_of_mem_foldl_set {pairs : List (String × α)} {entries : Entries α}
    {entry : String × α}
    (member : entry ∈ pairs.foldl (fun entries pair => set entries pair.1 pair.2) entries) :
    entry ∈ pairs ∨ entry ∈ entries := by
  induction pairs generalizing entries with
  | nil => exact .inr member
  | cons pair rest ih =>
    rcases ih member with later | before
    · exact .inl (List.mem_cons_of_mem _ later)
    · rcases mem_of_mem_set before with here | known
      · exact .inl (here ▸ List.mem_cons_self)
      · exact .inr known

theorem mem_of_mem_ofPairs {pairs : List (String × α)} {entry : String × α}
    (member : entry ∈ ofPairs pairs) : entry ∈ pairs := by
  rcases mem_of_mem_foldl_set member with known | none
  · exact known
  · cases none

private theorem foldl_set_of_nodup {pairs : List (String × α)} {entries : Entries α}
    (distinct : (keys (entries ++ pairs)).Nodup) :
    pairs.foldl (fun entries pair => set entries pair.1 pair.2) entries = entries ++ pairs := by
  induction pairs generalizing entries with
  | nil => exact (List.append_nil entries).symm
  | cons pair rest ih =>
    have fresh : pair.1 ∉ keys entries := by
      intro member
      rw [keys, List.map_append, List.map_cons] at distinct
      exact (List.nodup_append.mp distinct).2.2 _ member _ List.mem_cons_self rfl
    rw [List.foldl_cons, set_of_fresh fresh, ih (by simpa using distinct), List.append_assoc,
      List.singleton_append]

/-- Pairs with distinct keys are entries as they are. -/
theorem ofPairs_of_nodup {pairs : List (String × α)} (distinct : (keys pairs).Nodup) :
    ofPairs pairs = pairs :=
  @foldl_set_of_nodup _ pairs [] distinct

theorem get?_map (f : α → β) (entries : Entries α) (name : String) :
    get? (entries.map fun entry => (entry.1, f entry.2)) name = (get? entries name).map f := by
  induction entries with
  | nil => rfl
  | cons entry rest ih =>
    rw [List.map_cons, get?_cons, get?_cons, ih]
    split <;> rfl

theorem keys_map (f : α → β) (entries : Entries α) :
    keys (entries.map fun entry => (entry.1, f entry.2)) = keys entries := by
  simp [keys]

private theorem set_map (f : α → β) (entries : Entries α) (key : String) (value : α) :
    set (entries.map fun entry => (entry.1, f entry.2)) key (f value) =
      (set entries key value).map fun entry => (entry.1, f entry.2) := by
  induction entries with
  | nil => rfl
  | cons entry rest ih =>
    rw [List.map_cons, set, set, ih]
    split <;> rfl

private theorem foldl_set_map (f : α → β) (pairs : List (String × α)) (entries : Entries α) :
    (pairs.map fun pair => (pair.1, f pair.2)).foldl
        (fun entries pair => set entries pair.1 pair.2)
        (entries.map fun entry => (entry.1, f entry.2)) =
      (pairs.foldl (fun entries pair => set entries pair.1 pair.2) entries).map
        fun entry => (entry.1, f entry.2) := by
  induction pairs generalizing entries with
  | nil => rfl
  | cons pair rest ih => rw [List.map_cons, List.foldl_cons, List.foldl_cons, set_map, ih]

/-- Which pairs count does not depend on their values. -/
theorem ofPairs_map (f : α → β) (pairs : List (String × α)) :
    ofPairs (pairs.map fun pair => (pair.1, f pair.2)) =
      (ofPairs pairs).map fun entry => (entry.1, f entry.2) :=
  foldl_set_map f pairs []

theorem mem_of_get? {entries : Entries α} {name : String} {value : α}
    (found : get? entries name = some value) : (name, value) ∈ entries := by
  induction entries with
  | nil => simp at found
  | cons entry rest ih =>
    obtain ⟨key, first⟩ := entry
    rw [get?_cons] at found
    by_cases here : key = name
    · rw [if_pos here] at found
      simp [here, Option.some.inj found]
    · rw [if_neg here] at found
      exact List.mem_cons_of_mem _ (ih found)

/-- Every entry is found under its key when keys do not repeat. -/
theorem get?_of_mem {entries : Entries α} {name : String} {value : α}
    (distinct : (keys entries).Nodup) (member : (name, value) ∈ entries) :
    get? entries name = some value := by
  induction entries with
  | nil => simp at member
  | cons entry rest ih =>
    obtain ⟨key, first⟩ := entry
    obtain ⟨fresh, others⟩ := List.nodup_cons.mp distinct
    rw [get?_cons]
    rcases List.mem_cons.mp member with same | later
    · rw [if_pos (congrArg Prod.fst same).symm, (Prod.mk.inj same).2]
    · have other : key ≠ name := by
        rintro rfl
        exact fresh (List.mem_map.mpr ⟨_, later, rfl⟩)
      rw [if_neg other, ih others later]

theorem get?_of_perm {first second : Entries α} (order : first.Perm second)
    (distinct : (keys second).Nodup) (name : String) : get? first name = get? second name := by
  have distinctFirst : (keys first).Nodup := (order.map Prod.fst).nodup_iff.mpr distinct
  cases found : get? second name with
  | some value =>
    exact get?_of_mem distinctFirst (order.mem_iff.mpr (mem_of_get? found))
  | none =>
    cases other : get? first name with
    | none => rfl
    | some value =>
      have present := get?_of_mem distinct (order.mem_iff.mp (mem_of_get? other))
      rw [found] at present
      cases present

theorem insertSorted_perm (key : String) (value : α) (entries : Entries α) :
    (insertSorted key value entries).Perm ((key, value) :: entries) := by
  induction entries with
  | nil => exact .refl _
  | cons entry rest ih =>
    obtain ⟨k, v⟩ := entry
    rw [insertSorted]
    split
    · exact .refl _
    · exact (ih.cons (k, v)).trans (.swap ..)

theorem sorted_perm (entries : Entries α) : (sorted entries).Perm entries := by
  induction entries with
  | nil => exact .refl _
  | cons entry rest ih =>
    obtain ⟨k, v⟩ := entry
    exact (insertSorted_perm k v (sorted rest)).trans (ih.cons (k, v))

/-- Sorting does not change what a key stands for. -/
theorem get?_sorted {entries : Entries α} (distinct : (keys entries).Nodup) (name : String) :
    get? (sorted entries) name = get? entries name :=
  get?_of_perm (sorted_perm entries) distinct name

/-- Sorted entries with the same keys agree only where their values do. -/
theorem sorted_map_eq_iff {f g : String × α → β} {entries : Entries α}
    (distinct : (keys entries).Nodup) :
    sorted (entries.map fun entry => (entry.1, f entry)) =
        sorted (entries.map fun entry => (entry.1, g entry)) ↔
      ∀ entry ∈ entries, f entry = g entry := by
  have held : ∀ (h : String × α → β), ∀ entry ∈ entries,
      get? (sorted (entries.map fun entry => (entry.1, h entry))) entry.1 = some (h entry) := by
    intro h entry member
    have kept : (keys (entries.map fun entry => (entry.1, h entry))).Nodup := by
      rwa [keys, List.map_map]
    rw [get?_sorted kept]
    exact get?_of_mem kept (List.mem_map.mpr ⟨entry, member, rfl⟩)
  constructor
  · intro same entry member
    have found := held f entry member
    rw [same, held g entry member] at found
    exact (Option.some.inj found).symm
  · intro each
    rw [List.map_congr_left]
    intro entry member
    rw [each entry member]

end ExprTree.Entries
