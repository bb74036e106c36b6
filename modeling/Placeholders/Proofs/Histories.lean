/-
Registries over time. A history creates registries and writes to them: by
registration, or by a merge, which writes all that another registry holds just
then (`Change.writes`). What a registry holds under a signature is what was written
last (`held_eq_some_iff`), and the registries that a history makes hold just that
(`registries_record_history`). So the source of a merge may change later on without
the target, and a listing shows which signatures were written to and nothing of when.

Numbers stand for registries, in the order in which they are created. That leaves
histories which write to a registry that is not there yet; they make nothing, and
those that do not (`IsOrderly`) always make their registries.
-/
import Mathlib.Data.Set.Card
import Placeholders.Proofs.Forecast

namespace Placeholders

/-! ## The order of signatures -/

/-- The order of a listing: by name, character by character, then by argument types,
one by one. What is cut short comes first. -/
def Signature.Before (s t : Signature) : Prop :=
  List.Lex (fun a b => a.toNat < b.toNat) s.name t.name ∨
    s.name = t.name ∧ List.Lex (fun a b => a.rank < b.rank) s.types t.types

theorem compare_list_eq_lt {α : Type} [Ord α] [Std.LawfulEqOrd α] {r : α → α → Prop}
    (h : ∀ a b, compare a b = .lt ↔ r a b) : ∀ {l l' : List α}, compare l l' = .lt ↔ List.Lex r l l'
  | _, [] => by
    refine iff_of_false ?_ List.not_lex_nil
    cases ‹List α› <;> intro hlt <;> cases hlt
  | [], b :: l' => iff_of_true rfl .nil
  | a :: l, b :: l' => by
    have hcons : compare (a :: l) (b :: l') = (compare a b).then (compare l l') := List.compareLex_cons_cons
    rw [hcons, Ordering.then_eq_lt, h, compare_list_eq_lt h, Std.compare_eq_iff_eq, List.cons_lex_cons_iff]

theorem Signature.compare_eq_lt {s t : Signature} : compare s t = .lt ↔ s.Before t := by
  have hchar : ∀ a b : Char, compare a b = .lt ↔ a.toNat < b.toNat := fun a b => compareOfLessAndEq_eq_lt
  have htype : ∀ a b : ArgType, compare a b = .lt ↔ a.rank < b.rank := fun a b => Nat.compare_eq_lt
  have hsplit : compare s t = (compare s.name t.name).then (compare s.types t.types) := rfl
  rw [hsplit, Ordering.then_eq_lt, compare_list_eq_lt hchar, compare_list_eq_lt htype, Std.compare_eq_iff_eq]
  rfl

namespace Registry

theorem signatures_ascend (r : Registry) : r.signatures.Pairwise Signature.Before :=
  Std.TreeMap.ordered_keys.imp Signature.compare_eq_lt.mp

theorem nodup_signatures (r : Registry) : r.signatures.Nodup := by
  refine Std.TreeMap.distinct_keys.imp fun hne heq => hne ?_
  rw [heq]
  exact Std.ReflOrd.compare_self

theorem mem_signatures_iff (r : Registry) (s : Signature) : s ∈ r.signatures ↔ ∃ f, r.resolve s = some f := by
  rw [mem_signatures, Option.isSome_iff_exists]
  rfl

/-- A listing is told by its members. -/
theorem signatures_eq_of_mem {r r' : Registry} (h : ∀ s, s ∈ r.signatures ↔ s ∈ r'.signatures) :
    r.signatures = r'.signatures := by
  have hperm := (List.perm_ext_iff_of_nodup r.nodup_signatures r'.nodup_signatures).mpr h
  refine List.Perm.eq_of_pairwise (fun s t _ _ hst hts => ?_) Std.TreeMap.ordered_keys Std.TreeMap.ordered_keys hperm
  exact absurd hts (Std.OrientedCmp.not_lt_of_lt hst)

/-! ## Histories -/

/-- A change to registries, which are numbered as they are created. -/
inductive Change
  | create (name : Text)
  | register (target : Nat) (name : Text) (types : List ArgType) (f : PipeFunction)
  | registerUnary (target : Nat) (name : Text) (f : Text → Text)
  | merge (target source : Nat)

namespace Change

/-- The name of the registry that is created. -/
def created? : Change → Option Text
  | create name => some name
  | _ => none

/-- The registries that have to be there. -/
def uses : Change → List Nat
  | create _ => []
  | register target .. | registerUnary target .. => [target]
  | merge target source => [target, source]

/-- The registries after the change, if those that it uses are there. -/
def apply (registries : List Registry) : Change → Option (List Registry)
  | create name => some (registries ++ [.empty name])
  | register target name types f => do
    let r ← registries[target]?
    return registries.set target (r.register name types f)
  | registerUnary target name f => do
    let r ← registries[target]?
    return registries.set target (r.registerUnary name f)
  | merge target source => do
    let r ← registries[target]?
    let other ← registries[source]?
    return registries.set target (r.merge other)

end Change

/-- The registries that a history makes from nothing. -/
def made (history : List Change) : Option (List Registry) := history.foldlM Change.apply []

/-- Every change uses registries that are created before it. -/
def IsOrderly (history : List Change) : Prop :=
  ∀ n (h : n < history.length), ∀ i ∈ history[n].uses, i < ((history.take n).filterMap Change.created?).length

/-- The functions that registries hold, by number and signature. -/
abbrev Holdings := Nat → Signature → Option PipeFunction

/-- What a change writes to a registry under a signature. A merge writes all that
its source holds by then. -/
def Change.writes (before : Holdings) (i : Nat) (s : Signature) : Change → Option PipeFunction
  | create _ => none
  | register target name types f => if target = i ∧ ⟨name, types⟩ = s then some f else none
  | registerUnary target name f => if target = i ∧ ⟨name, []⟩ = s then some fun value _ => .ok (f value) else none
  | merge target source => if target = i then before source s else none

/-- What is held after a change: what it writes, and else what was held before. -/
def Change.after (before : Holdings) (c : Change) : Holdings :=
  fun i s => (c.writes before i s).or (before i s)

/-- What is held after a history. -/
def held (history : List Change) : Holdings := history.foldl Change.after fun _ _ => none

/-- What a history writes at a time to a registry under a signature. -/
def writeAt (history : List Change) (n i : Nat) (s : Signature) : Option PipeFunction :=
  history[n]?.bind (Change.writes (held (history.take n)) i s)

/-- Was the registry written to under the signature? -/
def IsWritten (history : List Change) (i : Nat) (s : Signature) : Prop := ∃ n f, writeAt history n i s = some f

/-! ## The last write -/

theorem held_concat (history : List Change) (c : Change) : held (history ++ [c]) = c.after (held history) := by
  unfold held
  rw [List.foldl_append]
  rfl

section
variable {history : List Change} {n i : Nat} {s : Signature} {f : PipeFunction}

theorem writeAt_concat_of_lt (h : n < history.length) (c : Change) :
    writeAt (history ++ [c]) n i s = writeAt history n i s := by
  unfold writeAt
  rw [List.getElem?_append_left h, List.take_append_of_le_length (Nat.le_of_lt h)]

theorem writeAt_concat_length (c : Change) :
    writeAt (history ++ [c]) history.length i s = c.writes (held history) i s := by
  unfold writeAt
  rw [List.getElem?_concat_length, List.take_left, Option.bind_some]

theorem writeAt_of_length_le (h : history.length ≤ n) : writeAt history n i s = none := by
  unfold writeAt
  rw [List.getElem?_eq_none h, Option.bind_none]

theorem lt_length_of_writeAt (h : writeAt history n i s = some f) : n < history.length := by
  by_contra hlen
  rw [writeAt_of_length_le (Nat.not_lt.mp hlen)] at h
  cases h

/-- A write is the last change or comes before it. -/
theorem lt_or_eq_of_writeAt_concat {c : Change} (h : writeAt (history ++ [c]) n i s = some f) :
    n < history.length ∨ n = history.length := by
  have hlen := lt_length_of_writeAt h
  rw [List.length_append, List.length_singleton] at hlen
  omega

/-- What is held was written, and nothing was written over it. -/
theorem held_eq_some_iff : held history i s = some f ↔
    ∃ n, writeAt history n i s = some f ∧ ∀ m, n < m → writeAt history m i s = none := by
  induction history using List.reverseRecOn generalizing f with
  | nil =>
    constructor
    · intro h; cases h
    · rintro ⟨n, h, -⟩; cases h
  | append_singleton history c ih =>
    have hlast : writeAt (history ++ [c]) history.length i s = c.writes (held history) i s :=
      writeAt_concat_length c
    have hbeyond : ∀ m, history.length < m → writeAt (history ++ [c]) m i s = none := fun m hm =>
      writeAt_of_length_le (by simpa using hm)
    rw [held_concat, Change.after]
    cases hc : c.writes (held history) i s with
    | some g =>
      rw [hc] at hlast
      constructor
      · intro h
        cases h
        exact ⟨history.length, hlast, hbeyond⟩
      · rintro ⟨n, hn, hover⟩
        -- An earlier write is written over by this one, so it is this one.
        obtain hlt | rfl := lt_or_eq_of_writeAt_concat hn
        · rw [hover _ hlt] at hlast
          cases hlast
        · rw [hn] at hlast
          cases hlast
          rfl
    | none =>
      rw [hc] at hlast
      rw [Option.none_or, ih]
      constructor
      · rintro ⟨n, hn, hover⟩
        have hlt := lt_length_of_writeAt hn
        refine ⟨n, by rwa [writeAt_concat_of_lt hlt], fun m hm => ?_⟩
        obtain hm' | rfl | hm' : m < history.length ∨ m = history.length ∨ history.length < m := by omega
        · rw [writeAt_concat_of_lt hm', hover m hm]
        · exact hlast
        · exact hbeyond m hm'
      · rintro ⟨n, hn, hover⟩
        obtain hlt | rfl := lt_or_eq_of_writeAt_concat hn
        · rw [writeAt_concat_of_lt hlt] at hn
          refine ⟨n, hn, fun m hm => ?_⟩
          by_cases hm' : m < history.length
          · rw [← writeAt_concat_of_lt hm' c, hover m hm]
          · exact writeAt_of_length_le (Nat.not_lt.mp hm')
        · rw [hlast] at hn
          cases hn

/-- Something is held just when something was written. -/
theorem isWritten_iff : IsWritten history i s ↔ ∃ f, held history i s = some f := by
  constructor
  · rintro ⟨n, f, hn⟩
    induction history using List.reverseRecOn with
    | nil => cases hn
    | append_singleton history c ih =>
      rw [held_concat, Change.after]
      cases hc : c.writes (held history) i s with
      | some g => exact ⟨g, rfl⟩
      | none =>
        obtain hlt | rfl := lt_or_eq_of_writeAt_concat hn
        · rw [writeAt_concat_of_lt hlt] at hn
          exact ih hn
        · rw [writeAt_concat_length, hc] at hn
          cases hn
  · rintro ⟨f, hf⟩
    obtain ⟨n, hn, -⟩ := held_eq_some_iff.mp hf
    exact ⟨n, f, hn⟩

end

/-! ## One change -/

/-- What registries hold, by their own lookup. -/
def holdings (registries : List Registry) : Holdings := fun i s => registries[i]?.bind (·.resolve s)

section
variable {registries : List Registry} {i : Nat} {r r' : Registry}

theorem map_name_set (hr : registries[i]? = some r) (hname : r'.name = r.name) :
    (registries.set i r').map name = registries.map name := by
  obtain ⟨hi, rfl⟩ := List.getElem?_eq_some_iff.mp hr
  rw [List.map_set, hname, ← List.map_set, List.set_getElem_self]

theorem holdings_set (hr : registries[i]? = some r) (j : Nat) (s : Signature) :
    holdings (registries.set i r') j s = if i = j then r'.resolve s else holdings registries j s := by
  obtain ⟨hi, -⟩ := List.getElem?_eq_some_iff.mp hr
  unfold holdings
  rw [List.getElem?_set, if_pos hi]
  split <;> rfl

theorem resolve_eq_holdings (hr : registries[i]? = some r) (s : Signature) :
    r.resolve s = holdings registries i s := by
  unfold holdings
  rw [hr, Option.bind_some]

/-- A change that writes to one registry leaves the names, and the others what they have. -/
theorem set_eq_after {c : Change} {written : Signature → Option PipeFunction} (hr : registries[i]? = some r)
    (hname : r'.name = r.name) (hcreated : c.created? = none)
    (hwrites : ∀ j s, c.writes (holdings registries) j s = if i = j then written s else none)
    (hresolve : ∀ s, r'.resolve s = (written s).or (r.resolve s)) :
    (registries.set i r').map name = registries.map name ++ c.created?.toList ∧
      holdings (registries.set i r') = c.after (holdings registries) := by
  constructor
  · rw [map_name_set hr hname, hcreated, Option.toList_none, List.append_nil]
  · funext j s
    rw [holdings_set hr, Change.after, hwrites]
    by_cases hij : i = j
    · subst hij
      rw [if_pos rfl, if_pos rfl, hresolve, resolve_eq_holdings hr]
    · rw [if_neg hij, if_neg hij, Option.none_or]

theorem register_eq_after (hr : registries[i]? = some r) (name : Text) (types : List ArgType) (f : PipeFunction) :
    (registries.set i (r.register name types f)).map Registry.name =
        registries.map Registry.name ++ (Change.register i name types f).created?.toList ∧
      holdings (registries.set i (r.register name types f)) =
        (Change.register i name types f).after (holdings registries) := by
  have hwrites : ∀ j s, (Change.register i name types f).writes (holdings registries) j s =
      if i = j then (if ⟨name, types⟩ = s then some f else none) else none := fun j s => by
    rw [Change.writes, ite_and]
  refine set_eq_after hr rfl rfl hwrites fun s => ?_
  rw [resolve_register]
  split <;> rfl

theorem merge_eq_after {source : Nat} {other : Registry} (hr : registries[i]? = some r)
    (hother : registries[source]? = some other) :
    (registries.set i (r.merge other)).map name = registries.map name ++ (Change.merge i source).created?.toList ∧
      holdings (registries.set i (r.merge other)) = (Change.merge i source).after (holdings registries) := by
  have hwrites : ∀ j s, (Change.merge i source).writes (holdings registries) j s =
      if i = j then other.resolve s else none := fun j s => by
    rw [Change.writes, resolve_eq_holdings hother]
  exact set_eq_after hr rfl rfl hwrites (resolve_merge r other)

theorem create_eq_after (registries : List Registry) (name : Text) :
    (registries ++ [empty name]).map Registry.name =
        registries.map Registry.name ++ (Change.create name).created?.toList ∧
      holdings (registries ++ [empty name]) = (Change.create name).after (holdings registries) := by
  refine ⟨by simp [Change.created?, empty], ?_⟩
  funext i s
  show holdings (registries ++ [empty name]) i s = holdings registries i s
  unfold holdings
  by_cases hi : i < registries.length
  · rw [List.getElem?_append_left hi]
  · have hle := Nat.not_lt.mp hi
    rw [List.getElem?_append_right hle, List.getElem?_eq_none hle]
    -- The new registry is empty, and there is nothing beyond it.
    cases i - registries.length with
    | zero => exact resolve_empty name s
    | succ k => rfl

end

/-- A change to registries that are there is made. It adds a name or none, and what
is held is what it leaves. -/
theorem Change.exists_apply {registries : List Registry} {c : Change} (h : ∀ i ∈ c.uses, i < registries.length) :
    ∃ registries', c.apply registries = some registries' ∧
      registries'.map name = registries.map name ++ c.created?.toList ∧
      holdings registries' = c.after (holdings registries) := by
  have hthere : ∀ i ∈ c.uses, ∃ r, registries[i]? = some r := fun i hi => ⟨_, List.getElem?_eq_getElem (h i hi)⟩
  cases c with
  | create name => exact ⟨_, rfl, create_eq_after registries name⟩
  | register target name types f =>
    obtain ⟨r, hr⟩ := hthere target (by simp [uses])
    exact ⟨_, by rw [apply, hr]; rfl, register_eq_after hr name types f⟩
  | registerUnary target name f =>
    obtain ⟨r, hr⟩ := hthere target (by simp [uses])
    exact ⟨_, by rw [apply, hr]; rfl, register_eq_after hr name [] _⟩
  | merge target source =>
    obtain ⟨r, hr⟩ := hthere target (by simp [uses])
    obtain ⟨other, hother⟩ := hthere source (by simp [uses])
    exact ⟨_, by rw [apply, hr, hother]; rfl, merge_eq_after hr hother⟩

/-! ## A whole history -/

section
variable {history : List Change}

theorem IsOrderly.of_concat {c : Change} (h : IsOrderly (history ++ [c])) :
    IsOrderly history ∧ ∀ i ∈ c.uses, i < (history.filterMap Change.created?).length := by
  constructor
  · intro n hn i hi
    have hcount := h n (by simp; omega) i (by rwa [List.getElem_append_left hn])
    rwa [List.take_append_of_le_length (Nat.le_of_lt hn)] at hcount
  · intro i hi
    have hcount := h history.length (by simp) i (by rwa [List.getElem_concat_length rfl])
    rwa [List.take_left] at hcount

/-- An orderly history makes its registries, named as they were created, and what
they hold was written last. -/
theorem exists_made (h : IsOrderly history) :
    ∃ registries, made history = some registries ∧
      registries.map name = history.filterMap Change.created? ∧ holdings registries = held history := by
  induction history using List.reverseRecOn with
  | nil => exact ⟨[], rfl, rfl, rfl⟩
  | append_singleton history c ih =>
    obtain ⟨horderly, huses⟩ := h.of_concat
    obtain ⟨registries, hmade, hnames, hheld⟩ := ih horderly
    have hlength : registries.length = (history.filterMap Change.created?).length := by
      rw [← hnames, List.length_map]
    obtain ⟨registries', happly, hnames', hheld'⟩ := Change.exists_apply (hlength ▸ huses)
    refine ⟨registries', ?_, ?_, ?_⟩
    · unfold made at hmade ⊢
      rw [List.foldlM_append, hmade]
      exact (bind_pure _).trans happly
    · rw [hnames', hnames, List.filterMap_append]
      cases c <;> rfl
    · rw [hheld', hheld, held_concat]

end

/-- The registry holds, counts and lists what a history writes to one number. -/
structure Records (history : List Change) (i : Nat) (r : Registry) : Prop where
  resolve_eq : ∀ s, r.resolve s = held history i s
  last_write : ∀ s f, r.resolve s = some f ↔
    ∃ n, writeAt history n i s = some f ∧ ∀ m, n < m → writeAt history m i s = none
  no_write : ∀ s, r.resolve s = none ↔ ¬ IsWritten history i s
  size_eq : {s | IsWritten history i s}.encard = r.size
  listed : ∀ s, s ∈ r.signatures ↔ ∃ f, r.resolve s = some f
  ascending : r.signatures.Pairwise Signature.Before
  nodup : r.signatures.Nodup

theorem Records.mem_iff {history : List Change} {i : Nat} {r : Registry} (h : Records history i r) (s : Signature) :
    s ∈ r.signatures ↔ IsWritten history i s := by
  rw [h.listed, isWritten_iff, h.resolve_eq]

theorem records_of_holdings {history : List Change} {registries : List Registry}
    (h : holdings registries = held history) {i : Nat} {r : Registry} (hr : registries[i]? = some r) :
    Records history i r := by
  have hresolve : ∀ s, r.resolve s = held history i s := fun s => by rw [resolve_eq_holdings hr, h]
  have hwritten : ∀ s, IsWritten history i s ↔ s ∈ r.signatures := fun s => by
    rw [isWritten_iff, mem_signatures_iff, hresolve]
  refine ⟨hresolve, fun s f => by rw [hresolve, held_eq_some_iff], fun s => ?_, ?_, mem_signatures_iff r,
    signatures_ascend r, nodup_signatures r⟩
  · rw [isWritten_iff, hresolve, ← Option.isSome_iff_exists, Option.not_isSome_iff_eq_none]
  · have hset : {s | IsWritten history i s} = ↑r.signatures.toFinset := by
      ext s
      simp [hwritten]
    rw [hset, Set.encard_coe_eq_coe_finsetCard, List.toFinset_card_of_nodup r.nodup_signatures]
    exact congrArg Nat.cast Std.TreeMap.length_keys

/-- **Registries hold what was last written to them.** An orderly history makes its
registries, which keep the names that they were created with. Each resolves a
signature to the function that was last written under it, where a merge writes what
its source holds at the time; it counts the signatures that were written to, and
lists them in ascending order, so that the listing hangs on nothing else. -/
theorem registries_record_history {history : List Change} (h : IsOrderly history) :
    ∃ registries, made history = some registries ∧
      registries.map name = history.filterMap Change.created? ∧
      ∀ i r, registries[i]? = some r → Records history i r ∧
        ∀ history' registries' i' r', IsOrderly history' → made history' = some registries' →
          registries'[i']? = some r' → (∀ s, IsWritten history i s ↔ IsWritten history' i' s) →
          r.signatures = r'.signatures := by
  obtain ⟨registries, hmade, hnames, hheld⟩ := exists_made h
  refine ⟨registries, hmade, hnames, fun i r hr => ⟨records_of_holdings hheld hr, ?_⟩⟩
  intro history' registries' i' r' h' hmade' hr' hsame
  obtain ⟨_, hmade'', -, hheld'⟩ := exists_made h'
  cases hmade'.symm.trans hmade''
  refine signatures_eq_of_mem fun s => ?_
  rw [(records_of_holdings hheld hr).mem_iff, (records_of_holdings hheld' hr').mem_iff, hsame]

/-- Two overloads, one of which a merge replaces; its source changes later on. -/
def lent : List Change :=
  [.create ['a'], .create ['b'], .register 0 ['f'] [.string] Builtin.putBefore, .registerUnary 1 ['f'] Text.trim,
    .register 1 ['f'] [.string] Builtin.whenEmpty, .merge 1 0, .register 0 ['f'] [.string] Builtin.putAfter]

/-- The two overloads written the other way around, and without a merge. -/
def owned : List Change :=
  [.create ['c'], .register 0 ['f'] [.string] Builtin.putAfter, .registerUnary 0 ['f'] Text.trim]

theorem isWritten_lent_iff_owned (s : Signature) : IsWritten lent 1 s ↔ IsWritten owned 0 s := by
  rw [isWritten_iff, isWritten_iff, ← Option.isSome_iff_exists, ← Option.isSome_iff_exists]
  simp only [held, lent, owned, Change.after, Change.writes, List.foldl_cons, List.foldl_nil]
  by_cases hunary : (⟨['f'], []⟩ : Signature) = s <;> by_cases hstring : (⟨['f'], [.string]⟩ : Signature) = s <;>
    simp [hunary, hstring]

theorem registries_record_history_lent :
    IsOrderly lent ∧ IsOrderly owned ∧
      ∃ a b c, made lent = some [a, b] ∧ made owned = some [c] ∧ [a, b].map name = [['a'], ['b']] ∧
        Records lent 1 b ∧ b.resolve ⟨['f'], [.string]⟩ = some Builtin.putBefore ∧
        (∀ s, IsWritten lent 1 s ↔ IsWritten owned 0 s) ∧ b.signatures = c.signatures := by
  have horderly : IsOrderly lent := by unfold IsOrderly; decide
  have horderly' : IsOrderly owned := by unfold IsOrderly; decide
  obtain ⟨registries, hmade, hnames, hrecords⟩ := registries_record_history horderly
  obtain ⟨a, b, rfl⟩ : ∃ a b, registries = [a, b] := by
    cases hmade
    exact ⟨_, _, rfl⟩
  obtain ⟨c, hmade'⟩ : ∃ c, made owned = some [c] := ⟨_, rfl⟩
  obtain ⟨hb, hlisted⟩ := hrecords 1 b rfl
  refine ⟨horderly, horderly', a, b, c, hmade, hmade', hnames, hb, ?_, isWritten_lent_iff_owned, ?_⟩
  · rw [hb.resolve_eq]
    rfl
  · exact hlisted owned [c] 0 c horderly' hmade' rfl isWritten_lent_iff_owned

end Registry
end Placeholders
