import ExprTree.Proofs.Entries
import ExprTree.Registry
import Mathlib.Data.List.TakeWhile

/-!
What a registration changes. As long as only values that hold no others are registered, every
object among the globals is the namespace of its own name and shared with nothing, so a
registration can be seen in three places at most: under its own name, under the dotted names below
a name that it binds anew, and under the namespace of a dotted name. Main statement: there it does
what it says, and everywhere else names keep their values.
-/
namespace ExprTree

namespace Value

/-- Values that hold no others: all but objects and arrays. -/
def IsAtom : Value → Prop
  | object .. | array .. => False
  | _ => True

/-- An atom has nothing inside that could be given new entries. -/
theorem IsAtom.refresh_eq {v : Value} (atom : v.IsAtom) (ref : Ref)
    (entries : List (String × Value)) : v.refresh ref entries = v := by
  cases v <;> first | rfl | cases atom

private theorem refreshEntries_of_atoms {old : List (String × Value)}
    (atoms : ∀ entry ∈ old, entry.2.IsAtom) (ref : Ref) (entries : List (String × Value)) :
    refreshEntries ref entries old = old := by
  induction old with
  | nil => rfl
  | cons entry rest ih =>
    obtain ⟨key, value⟩ := entry
    have first : value.IsAtom := atoms (key, value) (by simp)
    rw [refreshEntries, first.refresh_eq, ih fun other member => atoms other (by simp [member])]

private theorem get?_refreshEntries (ref : Ref) (entries globals : List (String × Value))
    (name : String) :
    Entries.get? (refreshEntries ref entries globals) name =
      (Entries.get? globals name).map (refresh ref entries) := by
  induction globals with
  | nil => rfl
  | cons entry rest ih =>
    obtain ⟨key, value⟩ := entry
    rw [refreshEntries, Entries.get?_cons, Entries.get?_cons, ih]
    split <;> rfl

end Value

namespace Registry

private theorem splitName_eq_none_iff {name : String} :
    splitName name = none ↔ '.' ∉ name.toList := by
  have all : (∀ c ∈ name.toList, decide (c ≠ '.') = true) ↔ '.' ∉ name.toList := by
    simp only [decide_eq_true_eq]
    exact ⟨fun other dot => other '.' dot rfl, fun plain c member same => plain (same ▸ member)⟩
  rw [← all, ← List.dropWhile_eq_nil_iff]
  unfold splitName
  dsimp only
  split
  · rename_i front
    rw [front]
    simp
  · rename_i nothing
    rw [nothing]
    simp

/-- A dotted name is split at its first dot. -/
theorem splitName_eq_some_iff {name space entry : String} :
    splitName name = some (space, entry) ↔
      '.' ∉ space.toList ∧ name = space ++ "." ++ entry := by
  constructor
  · intro split
    unfold splitName at split
    dsimp only at split
    split at split
    · rename_i c rest front
      obtain ⟨rfl, rfl⟩ := Prod.mk.inj (Option.some.inj split)
      have dot := List.head?_dropWhile_not (fun c => decide (c ≠ '.')) name.toList
      rw [front] at dot
      obtain rfl : c = '.' := by simpa using dot
      constructor
      · rw [String.toList_ofList]
        intro member
        have := List.mem_takeWhile_imp member
        simp at this
      · rw [← String.toList_inj]
        simp only [String.toList_append, String.toList_ofList]
        rw [List.append_assoc]
        have parts := @List.takeWhile_append_dropWhile _ (fun c => decide (c ≠ '.')) name.toList
        rw [front] at parts
        exact parts.symm
    · cases split
  · rintro ⟨plain, rfl⟩
    have before : ∀ c ∈ space.toList, decide (c ≠ '.') = true := by
      intro c member
      have other : c ≠ '.' := fun same => plain (same ▸ member)
      simpa using other
    have chars : (space ++ "." ++ entry).toList = space.toList ++ '.' :: entry.toList := by
      simp
    unfold splitName
    simp only [chars, List.dropWhile_append_of_pos before, List.takeWhile_append_of_pos before]
    simp

/-- The entries of the namespace with a name; anything but an object has none. -/
def members (r : Registry) (space : String) : Entries Value :=
  match r.lookup space with
  | .object _ entries => entries
  | _ => []

private theorem resolve_plain {name : String} (plain : '.' ∉ name.toList) (r : Registry) :
    r.resolve name = r.lookup name := by
  rw [resolve, splitName_eq_none_iff.mpr plain]

private theorem resolve_dotted {space : String} (plain : '.' ∉ space.toList) (entry : String)
    (r : Registry) :
    r.resolve (space ++ "." ++ entry) = (Entries.get? (r.members space) entry).getD .undefined := by
  rw [resolve, splitName_eq_some_iff.mpr ⟨plain, rfl⟩, members]
  dsimp only
  cases r.lookup space <;> rfl

/-- A global, when only atoms are registered: an atom, or the namespace of its own name. -/
inductive IsGlobal (name : String) : Value → Prop where
  | atom {value : Value} (atom : value.IsAtom) : IsGlobal name value
  | space {ref : Ref} {entries : Entries Value} (own : ref.path = [.key name])
      (atoms : ∀ entry ∈ entries, entry.2.IsAtom) : IsGlobal name (.object ref entries)

/-- Objects among the globals are namespaces, and no two of them are the same. -/
def Tidy (r : Registry) : Prop :=
  ∀ name, IsGlobal name (r.lookup name)

/-- Other globals than a namespace do not see what it is given. -/
theorem IsGlobal.refresh_eq {name space : String} {value : Value} {ref : Ref}
    (global : IsGlobal name value) (own : ref.path = [.key space]) (other : space ≠ name)
    (entries : Entries Value) : value.refresh ref entries = value := by
  cases global with
  | atom atom => exact atom.refresh_eq ref entries
  | @space held old named atoms =>
    have apart : held ≠ ref := by
      rintro rfl
      rw [own] at named
      cases named
      exact other rfl
    rw [Value.refresh, if_neg apart, Value.refreshEntries_of_atoms atoms]

variable {r : Registry}

theorem Tidy.members (tidy : r.Tidy) (space : String) :
    ∀ entry ∈ r.members space, entry.2.IsAtom := by
  intro entry member
  unfold Registry.members at member
  split at member
  · rename_i ref entries found
    have global := tidy space
    rw [found] at global
    cases global with
    | atom atom => cases atom
    | space _ atoms => exact atoms entry member
  · cases member

private theorem lookup_registerValue_plain {name : String} (plain : '.' ∉ name.toList)
    (r : Registry)
    (origin : Nat) (value : Value) (other : String) :
    (r.registerValue origin name value).lookup other =
      if name = other then value else r.lookup other := by
  rw [registerValue, splitName_eq_none_iff.mpr plain, lookup, Entries.get?_set]
  split <;> rfl

/-- A dotted name leaves a namespace with the entries it had and the new one, and all other globals
as they were. -/
theorem lookup_registerValue_dotted (tidy : r.Tidy) {space : String} (plain : '.' ∉ space.toList)
    (origin : Nat) (entry : String) (value : Value) :
    ∃ ref : Ref, ref.path = [.key space] ∧ ∀ other,
      (r.registerValue origin (space ++ "." ++ entry) value).lookup other =
        if space = other then .object ref (Entries.set (r.members space) entry value)
        else r.lookup other := by
  rw [registerValue, splitName_eq_some_iff.mpr ⟨plain, rfl⟩]
  dsimp only
  split
  · rename_i ref entries found
    have global := tidy space
    have held : r.members space = entries := by simp [Registry.members, Registry.lookup, found]
    have own : ref.path = [.key space] := by
      rw [Registry.lookup, found] at global
      cases global with
      | atom atom => cases atom
      | space own _ => exact own
    refine ⟨ref, own, fun other => ?_⟩
    rw [Registry.lookup, Value.get?_refreshEntries, held]
    split
    · rename_i same
      subst same
      rw [found]
      simp [Value.refresh]
    · rename_i different
      have kept := (tidy other).refresh_eq own different (Entries.set entries entry value)
      unfold Registry.lookup at kept ⊢
      cases bound : Entries.get? r.globals other with
      | none => rfl
      | some global =>
        rw [bound] at kept
        exact kept
  · rename_i nothing
    have held : r.members space = [] := by
      unfold Registry.members Registry.lookup
      cases found : Entries.get? r.globals space with
      | none => rfl
      | some global =>
        cases global <;> first | rfl | exact absurd found (nothing _ _)
    refine ⟨(Ref.ofOrigin origin).child (.key space), rfl, fun other => ?_⟩
    rw [Registry.lookup, Entries.get?_set, held]
    split <;> rfl

private theorem plain_or_dotted (name : String) :
    '.' ∉ name.toList ∨
      ∃ space entry, '.' ∉ space.toList ∧ name = space ++ "." ++ entry := by
  cases found : splitName name with
  | none => exact .inl (splitName_eq_none_iff.mp found)
  | some parts => exact .inr ⟨parts.1, parts.2, splitName_eq_some_iff.mp found⟩

/-- Registering an atom keeps the globals tidy. -/
theorem Tidy.registerValue (tidy : r.Tidy) (origin : Nat) (name : String) {value : Value}
    (atom : value.IsAtom) : (r.registerValue origin name value).Tidy := by
  intro other
  rcases plain_or_dotted name with plain | ⟨space, entry, plain, rfl⟩
  · rw [lookup_registerValue_plain plain]
    split
    · exact .atom atom
    · exact tidy other
  · obtain ⟨ref, own, looked⟩ := lookup_registerValue_dotted tidy plain origin entry value
    rw [looked]
    split
    · rename_i same
      subst same
      refine .space own fun field member => ?_
      rcases Entries.mem_of_mem_set member with rfl | known
      · exact atom
      · exact tidy.members space field known
    · exact tidy other

/-- The registries that the standard one can become when atoms are registered one after another,
functions among them under the last part of their names. -/
inductive Reached : Registry → Prop where
  | standard : Reached standard
  | value {r : Registry} (earlier : Reached r) (origin : Nat) (name : String) {v : Value}
      (atom : v.IsAtom) : Reached (r.registerValue origin name v)
  | function {r : Registry} (earlier : Reached r) (origin : Nat) (name : String) (code : Code) :
      Reached (r.register origin name code)

private theorem standard_tidy : standard.Tidy := by
  have constants : ∀ (bindings : List (String × Value)) (r : Registry), r.Tidy →
      (∀ binding ∈ bindings, binding.2.IsAtom) →
      (bindings.foldl (fun r binding => r.registerValue 0 binding.1 binding.2) r).Tidy := by
    intro bindings
    induction bindings with
    | nil => exact fun r tidy _ => tidy
    | cons binding rest ih =>
      intro r tidy atoms
      exact ih _ (tidy.registerValue 0 binding.1 (atoms binding (by simp)))
        fun other member => atoms other (by simp [member])
  have functions : ∀ (bindings : List (String × Builtin)) (r : Registry), r.Tidy →
      (bindings.foldl (fun r binding => r.register 0 binding.1 (.builtin binding.2)) r).Tidy := by
    intro bindings
    induction bindings with
    | nil => exact fun r tidy => tidy
    | cons binding rest ih => exact fun r tidy => ih _ (tidy.registerValue 0 binding.1 trivial)
  refine functions _ _ (constants _ _ (fun name => .atom trivial) ?_)
  simp [standardConstants, Value.IsAtom]

private theorem Reached.tidy (reached : r.Reached) : r.Tidy := by
  induction reached with
  | standard => exact standard_tidy
  | value _ origin name atom ih => exact ih.registerValue origin name atom
  | function _ origin name code ih => exact ih.registerValue origin name trivial

private theorem members_congr {r later : Registry} {space : String}
    (same : later.lookup space = r.lookup space) : later.members space = r.members space := by
  rw [members, members, same]

/-- After a registration the name stands for the new value, and every other name for what it stood
for, with two exceptions. Below a name without a dot that is bound anew, dotted names lose their
namespace. And the part of a dotted name before the dot names a namespace from then on: with all
entries that it had before and the new one if it was a namespace, and with the new one only if it
was anything else. -/
theorem registerValue_frame (reached : r.Reached) (origin : Nat) (name : String) (v : Value) :
    (r.registerValue origin name v).resolve name = v ∧
      (∀ other, other ≠ name →
        ('.' ∉ name.toList → ∀ rest, other ≠ name ++ "." ++ rest) →
        ('.' ∉ other.toList → ∀ entry, name ≠ other ++ "." ++ entry) →
        (r.registerValue origin name v).resolve other = r.resolve other) ∧
      ∀ space entry, '.' ∉ space.toList → name = space ++ "." ++ entry →
        ∃ ref, (r.registerValue origin name v).resolve space =
          .object ref (Entries.set (r.members space) entry v) := by
  have tidy := reached.tidy
  rcases plain_or_dotted name with plain | ⟨space, entry, plain, rfl⟩
  · have looked := lookup_registerValue_plain plain r origin v
    refine ⟨?_, fun other different below _ => ?_, ?_⟩
    · rw [resolve_plain plain, looked, if_pos rfl]
    · rcases plain_or_dotted other with bare | ⟨space, entry, bare, rfl⟩
      · rw [resolve_plain bare, resolve_plain bare, looked, if_neg different.symm]
      · have apart : name ≠ space := by
          rintro rfl
          exact below plain entry rfl
        rw [resolve_dotted bare, resolve_dotted bare,
          members_congr ((looked space).trans (if_neg apart))]
    · rintro space entry _ rfl
      exact absurd (by simp) plain
  · obtain ⟨ref, _, looked⟩ := lookup_registerValue_dotted tidy plain origin entry v
    have held : (r.registerValue origin (space ++ "." ++ entry) v).members space =
        Entries.set (r.members space) entry v := by
      rw [members, looked, if_pos rfl]
    refine ⟨?_, fun other different _ above => ?_, ?_⟩
    · rw [resolve_dotted plain, held, Entries.get?_set, if_pos rfl, Option.getD_some]
    · rcases plain_or_dotted other with bare | ⟨around, field, bare, rfl⟩
      · have apart : space ≠ other := by
          rintro rfl
          exact above bare entry rfl
        rw [resolve_plain bare, resolve_plain bare, looked, if_neg apart]
      · rw [resolve_dotted bare, resolve_dotted bare]
        by_cases same : space = around
        · subst same
          have apart : entry ≠ field := by
            rintro rfl
            exact different rfl
          rw [held, Entries.get?_set, if_neg apart]
        · rw [members_congr ((looked around).trans (if_neg same))]
    · intro around field bare same
      have parts := splitName_eq_some_iff.mpr ⟨bare, same⟩
      rw [splitName_eq_some_iff.mpr ⟨plain, rfl⟩] at parts
      cases parts
      exact ⟨ref, by rw [resolve_plain plain, looked, if_pos rfl]⟩

theorem registerValue_frame_sibling :
    let r := standard.register 1 "Str.upper" (.host 0)
    let later := r.registerValue 2 "Str.lower" .null
    r.Reached ∧ later.resolve "Str.lower" = .null ∧
      later.resolve "Str.upper" = r.resolve "Str.upper" ∧
      later.resolve "Number" = r.resolve "Number" ∧
      ∃ ref, later.resolve "Str" = .object ref (Entries.set (r.members "Str") "lower" .null) := by
  intro r later
  have reached : r.Reached := .function .standard 1 "Str.upper" (.host 0)
  obtain ⟨own, others, around⟩ := registerValue_frame reached 2 "Str.lower" .null
  have dotted : '.' ∈ "Str.lower".toList ∧ '.' ∈ "Str.upper".toList := by decide
  refine ⟨reached, own, ?_, ?_, around "Str" "lower" (by decide) rfl⟩
  · exact others "Str.upper" (by decide) (absurd dotted.1) (absurd dotted.2)
  · refine others "Number" (by decide) (absurd dotted.1) fun _ entry same => ?_
    have chars := congrArg String.toList same
    simp at chars

/-- A dotted name under a global that is no namespace takes its place: the conversion `Number` is
gone once something is registered below it. -/
theorem not_registerValue_keeps_globals :
    ¬ ∀ r : Registry, r.Reached → ∀ origin name (v : Value), v.IsAtom →
      (r.registerValue origin name v).resolve name = v ∧
        ∀ other, other ≠ name → (r.resolve other).kind ≠ .object →
          ('.' ∉ name.toList → ∀ rest, other ≠ name ++ "." ++ rest) →
          (r.registerValue origin name v).resolve other = r.resolve other := by
  intro law
  have before : (standard.resolve "Number").kind = .function := by decide +kernel
  have after : ((standard.registerValue 1 "Number.limit" .null).resolve "Number").kind =
      .object := by decide +kernel
  have dotted : '.' ∈ "Number.limit".toList := by decide
  have kept := (law standard .standard 1 "Number.limit" .null trivial).2 "Number" (by decide)
    (by rw [before]; decide) (absurd dotted)
  rw [kept, before] at after
  cases after

end Registry

end ExprTree
