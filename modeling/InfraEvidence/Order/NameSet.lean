/-
  InfraEvidence — sets of names in order.

  * `NameSet`: names without repetition, strictly increasing in the order of
    strings, so that two sets with the same members are equal;
  * `NameSet.ofList`: the set of the names of a list;
  * `NameSet.mem_ofList`: it has exactly these members;
  * `NameSet.ofList_toList`: a set is the one of its own members.
-/
import InfraEvidence.Order.Dict

namespace InfraEvidence

/-- Names without repetition, in order. -/
structure NameSet where
  /-- The names, strictly increasing -/
  toList : List String
  increasing : toList.Pairwise (· < ·)
deriving DecidableEq

namespace NameSet

/-- The set without members. -/
def empty : NameSet := ⟨[], .nil⟩

instance : Inhabited NameSet := ⟨empty⟩

/-- A name among names in order. -/
def insertName (n : String) : List String → List String
  | [] => [n]
  | m :: rest =>
    if n < m then n :: m :: rest else if m < n then m :: insertName n rest else m :: rest

theorem mem_insertName {n m : String} {ns : List String} :
    m ∈ insertName n ns ↔ m = n ∨ m ∈ ns := by
  induction ns with
  | nil => simp [insertName]
  | cons k ns ih =>
    simp only [insertName]
    split
    · simp
    split
    · simp only [List.mem_cons, ih]
      grind
    · next h1 h2 =>
      rw [Dict.key_eq h1 h2]
      simp

theorem increasing_insertName {n : String} {ns : List String} (h : ns.Pairwise (· < ·)) :
    (insertName n ns).Pairwise (· < ·) := by
  induction ns with
  | nil => simp [insertName]
  | cons k ns ih =>
    obtain ⟨hk, hns⟩ := List.pairwise_cons.1 h
    simp only [insertName]
    split
    · next hn =>
      refine List.pairwise_cons.2 ⟨fun x hx => ?_, h⟩
      rcases List.mem_cons.1 hx with rfl | hx
      · exact hn
      · exact String.lt_trans hn (hk x hx)
    split
    · next hn =>
      refine List.pairwise_cons.2 ⟨fun x hx => ?_, ih hns⟩
      rcases mem_insertName.1 hx with rfl | hx
      · exact hn
      · exact hk x hx
    · exact h

/-- The set with one more member. -/
def insert (s : NameSet) (n : String) : NameSet :=
  ⟨insertName n s.toList, increasing_insertName s.increasing⟩

/-- The set of the names of a list. -/
def ofList (ns : List String) : NameSet := ns.foldl insert empty

/-- There is no member. -/
def isEmpty (s : NameSet) : Bool := s.toList.isEmpty

/-- The number of members. -/
def size (s : NameSet) : Nat := s.toList.length

theorem mem_foldl_insert {ns : List String} {s : NameSet} {n : String} :
    n ∈ (ns.foldl insert s).toList ↔ n ∈ s.toList ∨ n ∈ ns := by
  induction ns generalizing s with
  | nil => simp
  | cons m ns ih =>
    simp only [List.foldl_cons, ih, List.mem_cons]
    rw [show (s.insert m).toList = insertName m s.toList from rfl, mem_insertName]
    grind

/-- The set of a list has its members. -/
theorem mem_ofList {ns : List String} {n : String} : n ∈ (ofList ns).toList ↔ n ∈ ns := by
  simp [ofList, mem_foldl_insert, empty]

theorem eq_of_toList {s s' : NameSet} (h : s.toList = s'.toList) : s = s' := by
  cases s
  cases s'
  cases h
  rfl

theorem insertName_of_last {n : String} {ns : List String} (h : ∀ m ∈ ns, m < n) :
    insertName n ns = ns ++ [n] := by
  induction ns with
  | nil => rfl
  | cons m ns ih =>
    have hlast : m < n := h m List.mem_cons_self
    rw [insertName, if_neg (String.lt_asymm hlast), if_pos hlast,
      ih fun x hx => h x (List.mem_cons_of_mem _ hx), List.cons_append]

theorem toList_foldl_insert {ns : List String} {s : NameSet}
    (h : (s.toList ++ ns).Pairwise (· < ·)) : (ns.foldl insert s).toList = s.toList ++ ns := by
  induction ns generalizing s with
  | nil => simp
  | cons n ns ih =>
    have hlast : (s.insert n).toList = s.toList ++ [n] :=
      insertName_of_last fun m hm => (List.pairwise_append.1 h).2.2 m hm n List.mem_cons_self
    have hstep := ih (s := s.insert n) (by rw [hlast, List.append_assoc]; exact h)
    rw [List.foldl_cons, hstep, hlast, List.append_assoc, List.singleton_append]

/-- A set is the one of its own members. -/
theorem ofList_toList (s : NameSet) : ofList s.toList = s :=
  eq_of_toList (toList_foldl_insert s.increasing)

end NameSet

end InfraEvidence
