import BlogTerminal.Text.Basic
import Mathlib.Data.Char

/-!
What tables hold behind a change, and that changes keep them in order. What a table holds of a name
is told by the first entry of that name, so those laws need no order; a table in order is told by
its entries alone, and putting them in one by one makes the same table again.
-/

namespace BlogTerminal

/-! ## The order of texts

Sorting is stable: items that are tied keep the order in which they are given. Texts are compared by
scalar value from the front, and this is also the order of their UTF-8 bytes: the first byte of a
character tells how many follow, and longer encodings start with higher bytes.
-/

namespace Text

variable {first second : Text}

/-- Of two different texts one comes first. -/
theorem lt_of_not_lt (different : first ≠ second) (above : ¬ first < second) : second < first := by
  by_contra below
  exact different (List.le_antisymm (List.not_lt.mp below) (List.not_lt.mp above))

/-! ### Sorted lists -/

/-- Items that are allowed in either order stay in the order in which they are given. -/
theorem mergeSort_filter {α : Type} {allows : α → α → Bool}
    (trans : ∀ a b c, allows a b = true → allows b c = true → allows a c = true)
    (total : ∀ a b, (allows a b || allows b a) = true) {p : α → Bool} {items : List α}
    (tied : ∀ a ∈ items, ∀ b ∈ items, p a = true → p b = true → allows a b = true) :
    (items.mergeSort allows).filter p = items.filter p := by
  have ordered : (items.filter p).Pairwise fun a b => allows a b = true := by
    apply List.pairwise_of_forall_mem_list
    intro a listed b listed'
    obtain ⟨given, fits⟩ := List.mem_filter.mp listed
    obtain ⟨given', fits'⟩ := List.mem_filter.mp listed'
    exact tied a given b given' fits fits'
  have kept := (List.sublist_mergeSort trans total ordered List.filter_sublist).filter p
  rw [List.filter_filter] at kept
  simp only [Bool.and_self] at kept
  exact (kept.eq_of_length ((List.mergeSort_perm items allows).filter p).length_eq.symm).symm

variable {text : Text} {texts : List Text}

/-- Sorting a list as a set keeps its texts. -/
theorem mem_sortedSet : text ∈ sortedSet texts ↔ text ∈ texts := by
  rw [sortedSet, sorted, List.mem_mergeSort, List.mem_eraseDups]

private theorem eraseDups_nodup (texts : List Text) : texts.eraseDups.Nodup := by
  cases texts with
  | nil => exact .nil
  | cons first rest =>
    rw [List.eraseDups_cons]
    refine List.nodup_cons.mpr ⟨?_, eraseDups_nodup _⟩
    rw [List.mem_eraseDups, List.mem_filter]
    simp
termination_by texts.length
decreasing_by exact Nat.lt_succ_of_le (List.length_filter_le _ _)

private theorem sorted_ascends (texts : List Text) :
    (sorted texts).Pairwise fun first second => ¬ second < first := by
  have transitive (first second third : Text) (below : (!decide (second < first)) = true)
      (above : (!decide (third < second)) = true) : (!decide (third < first)) = true := by
    simp only [Bool.not_eq_true', decide_eq_false_iff_not, List.not_lt] at below above ⊢
    exact List.le_trans below above
  have total (first second : Text) :
      (!decide (second < first) || !decide (first < second)) = true := by
    simp only [Bool.or_eq_true, Bool.not_eq_true', decide_eq_false_iff_not, List.not_lt]
    exact List.le_total first second
  exact (List.pairwise_mergeSort transitive total texts).imp fun below => by simpa using below

/-- The distinct texts of a list ascend strictly. -/
theorem sortedSet_ascends (texts : List Text) : (sortedSet texts).Pairwise (· < ·) := by
  have distinct : (sortedSet texts).Nodup :=
    (List.mergeSort_perm _ _).nodup_iff.mpr (eraseDups_nodup texts)
  exact (sorted_ascends _).imp₂ (fun _ _ below other => lt_of_not_lt other.symm below) distinct

/-- A search through the distinct texts of a list answers the first in order of those that fit. -/
theorem sortedSet_first {p : Text → Bool} (found : (sortedSet texts).find? p = some first)
    (listed : text ∈ sortedSet texts) (fits : p text = true) : ¬ text < first := by
  obtain ⟨_, before, behind, split, none⟩ := List.find?_eq_some_iff_append.mp found
  have ascends := sortedSet_ascends texts
  rw [split] at listed ascends
  rcases List.mem_append.mp listed with earlier | later
  · have other := none text earlier
    rw [fits] at other
    cases other
  · rcases List.mem_cons.mp later with rfl | later
    · exact List.lt_irrefl _
    · have above := (List.pairwise_cons.mp (List.pairwise_append.mp ascends).2.1).1 text later
      exact List.lt_asymm above

/-! ### Bytes -/

/-- The UTF-8 form of a text. -/
def bytes (text : Text) : List UInt8 := text.flatMap String.utf8EncodeChar

private theorem bytes_cons (c : Char) (text : Text) :
    bytes (c :: text) = String.utf8EncodeChar c ++ bytes text := List.flatMap_cons

private theorem byte_lt_iff {m n : Nat} {front behind : List UInt8} (small : m < 256)
    (other : n < 256) : UInt8.ofNat m :: front < UInt8.ofNat n :: behind ↔
      m < n ∨ m = n ∧ front < behind := by
  rw [List.cons_lt_cons_iff, UInt8.lt_iff_toNat_lt, ← UInt8.toNat_inj, UInt8.toNat_ofNat',
    UInt8.toNat_ofNat', Nat.mod_eq_of_lt small, Nat.mod_eq_of_lt other]

/-- A lower character has the lower encoding, whatever follows either. -/
theorem utf8EncodeChar_lt {c d : Char} (lower : c < d) (front behind : List UInt8) :
    String.utf8EncodeChar c ++ front < String.utf8EncodeChar d ++ behind := by
  have order : c.val.toNat < d.val.toNat := UInt32.lt_iff_toNat_lt.mp lower
  have bound : d.val.toNat < 0x110000 := by
    rcases d.valid with low | high
    · exact Nat.lt_trans low (by decide)
    · exact high.2
  -- The bytes hold the digits to the base 64, so one digit is divided off after the other.
  have third (n : Nat) : n / 4096 = n / 64 / 64 := by omega
  have fourth (n : Nat) : n / 262144 = n / 64 / 64 / 64 := by omega
  simp only [String.utf8EncodeChar]
  generalize c.val.toNat = m at order ⊢
  generalize d.val.toNat = n at order bound ⊢
  split_ifs
  all_goals
    simp (disch := omega) only [List.cons_append, List.nil_append, byte_lt_iff, third, fourth]
    omega

private theorem bytes_ascend (lower : first < second) : bytes first < bytes second := by
  induction lower with
  | @nil c rest =>
    rw [bytes_cons]
    have given : String.utf8EncodeChar c ≠ [] := String.utf8EncodeChar_ne_nil
    cases encoded : String.utf8EncodeChar c with
    | nil => exact absurd encoded given
    | cons byte more => exact List.nil_lt_cons _ _
  | rel lower =>
    rw [bytes_cons, bytes_cons]
    exact utf8EncodeChar_lt lower _ _
  | cons _ ih =>
    rw [bytes_cons, bytes_cons]
    exact List.append_left_lt ih

/-- The order of texts is the order of their bytes. -/
theorem bytes_lt_iff : bytes first < bytes second ↔ first < second := by
  refine ⟨fun lower => ?_, bytes_ascend⟩
  by_contra above
  by_cases same : first = second
  · subst same
    exact List.lt_irrefl _ lower
  · exact List.lt_asymm lower (bytes_ascend (lt_of_not_lt same above))

end Text

/-! ## Tables -/

namespace Table

variable {α : Type}

private theorem get_cons (first : Text) (kept : α) (rest : Table α) (other : Text) :
    get? ((first, kept) :: rest) other = if other = first then some kept else get? rest other := by
  rw [get?, List.lookup_cons]
  by_cases same : other = first
  · rw [if_pos same, beq_iff_eq.mpr same]
  · rw [if_neg same, beq_false_of_ne same]
    rfl

/-- Behind an insertion the name has the value, and all others have what they had. -/
theorem get_insert (table : Table α) (name : Text) (value : α) (other : Text) :
    (table.insert name value).get? other =
      if other = name then some value else table.get? other := by
  induction table with
  | nil => rw [insert, get_cons]
  | cons entry rest ih =>
    obtain ⟨first, kept⟩ := entry
    rw [insert]
    by_cases here : name = first
    · subst here
      rw [if_pos rfl, get_cons, get_cons]
      by_cases same : other = name <;> simp only [same, ↓reduceIte]
    · rw [if_neg here]
      by_cases before : name < first
      · rw [if_pos before, get_cons]
      · rw [if_neg before, get_cons, ih, get_cons]
        by_cases found : other = first
        · have different : other ≠ name := fun same => here (same.symm.trans found)
          rw [if_pos found, if_neg different, if_pos found]
        · rw [if_neg found, if_neg found]

/-- Behind a removal the name has nothing, and all others have what they had. -/
theorem get_erase (table : Table α) (name other : Text) :
    (table.erase name).get? other = if other = name then none else table.get? other := by
  induction table with
  | nil => simp [erase, get?]
  | cons entry rest ih =>
    obtain ⟨first, kept⟩ := entry
    rw [erase] at ih ⊢
    by_cases gone : first = name
    · rw [List.filter_cons_of_neg (by simpa using gone), ih, get_cons, gone]
      by_cases same : other = name <;> simp only [same, ↓reduceIte]
    · rw [List.filter_cons_of_pos (by simpa using gone), get_cons, ih, get_cons]
      by_cases found : other = first
      · have different : other ≠ name := fun same => gone (found.symm.trans same)
        rw [if_pos found, if_neg different, if_pos found]
      · rw [if_neg found, if_neg found]

/-- A name that is not there cannot be taken away. -/
theorem erase_absent {table : Table α} {name : Text} (absent : table.get? name = none) :
    table.erase name = table := by
  refine List.filter_eq_self.mpr fun entry member => ?_
  have listed := List.lookup_eq_none_iff.mp absent entry member
  simpa using Ne.symm (bne_iff_ne.mp listed)

/-! ### Order -/

variable {table : Table α} {name : Text} {value : α} {entry : Text × α}

/-- The names ascend, so each of them occurs once. -/
def Sorted (table : Table α) : Prop := table.Pairwise fun first second => first.1 < second.1

private theorem mem_insert (member : entry ∈ table.insert name value) :
    entry = (name, value) ∨ entry ∈ table := by
  induction table with
  | nil => exact .inl (List.mem_singleton.mp member)
  | cons head rest ih =>
    obtain ⟨first, kept⟩ := head
    rw [insert] at member
    split at member
    · rcases List.mem_cons.mp member with same | later
      · exact .inl same
      · exact .inr (.tail _ later)
    · split at member
      · exact List.mem_cons.mp member
      · rcases List.mem_cons.mp member with same | later
        · rw [same]
          exact .inr (.head _)
        · exact (ih later).imp_right (.tail _)

private theorem mem_names : name ∈ table.names ↔ ∃ value, (name, value) ∈ table := by
  simp [names]

/-- A table holds something of exactly the names that it lists. -/
theorem mem_names_iff_get : name ∈ table.names ↔ (table.get? name).isSome = true := by
  induction table with
  | nil => simp [names, get?]
  | cons head rest ih =>
    obtain ⟨first, kept⟩ := head
    rw [get_cons, names, List.map_cons, List.mem_cons, ← names, ih]
    by_cases same : name = first <;> simp [same]

/-- What a table in order holds of a name is its entry of that name. -/
theorem mem_iff_get (sorted : table.Sorted) :
    (name, value) ∈ table ↔ table.get? name = some value := by
  induction table with
  | nil => simp [get?]
  | cons head rest ih =>
    obtain ⟨first, kept⟩ := head
    obtain ⟨below, later⟩ := List.pairwise_cons.mp sorted
    rw [get_cons, List.mem_cons, Prod.mk.injEq, ih later]
    by_cases same : name = first
    · subst same
      have absent : get? rest name ≠ some value := fun found =>
        List.lt_irrefl name (below (name, value) ((ih later).mpr found))
      simp [absent, eq_comm]
    · simp [same]

/-- A name that is put in is the only new one. -/
theorem names_insert {other : Text} (member : other ∈ (table.insert name value).names) :
    other = name ∨ other ∈ table.names := by
  obtain ⟨kept, listed⟩ := mem_names.mp member
  rcases mem_insert listed with same | before
  · exact .inl (congrArg Prod.fst same)
  · exact .inr (mem_names.mpr ⟨kept, before⟩)

/-- A name that was removed is not there. -/
theorem names_erase : name ∉ (table.erase name).names := by
  simp [names, erase]

/-- An insertion keeps the order. -/
theorem insert_sorted (sorted : table.Sorted) : (table.insert name value).Sorted := by
  induction table with
  | nil => exact List.pairwise_singleton _ _
  | cons head rest ih =>
    obtain ⟨first, kept⟩ := head
    obtain ⟨below, later⟩ := List.pairwise_cons.mp sorted
    rw [insert]
    by_cases here : name = first
    · subst here
      rw [if_pos rfl]
      exact List.pairwise_cons.mpr ⟨below, later⟩
    · rw [if_neg here]
      by_cases before : name < first
      · rw [if_pos before]
        refine List.pairwise_cons.mpr ⟨fun entry member => ?_, sorted⟩
        rcases List.mem_cons.mp member with same | behind
        · rw [same]
          exact before
        · exact List.lt_trans before (below entry behind)
      · rw [if_neg before]
        refine List.pairwise_cons.mpr ⟨fun entry member => ?_, ih later⟩
        rcases mem_insert member with same | behind
        · rw [same]
          exact Text.lt_of_not_lt here before
        · exact below entry behind

/-- A removal keeps the order. -/
theorem erase_sorted (sorted : table.Sorted) : (table.erase name).Sorted :=
  List.Pairwise.filter _ sorted

/-- A name above all others goes to the end. -/
theorem insert_last (below : ∀ entry ∈ table, entry.1 < name) :
    table.insert name value = table ++ [(name, value)] := by
  induction table with
  | nil => rfl
  | cons head rest ih =>
    obtain ⟨first, kept⟩ := head
    have lower : first < name := below _ (.head _)
    have other : name ≠ first := by
      rintro rfl
      exact List.lt_irrefl _ lower
    have later := ih fun entry member => below entry (.tail _ member)
    rw [insert, if_neg other, if_neg (List.lt_asymm lower), later]
    rfl

/-- A table that is made entry by entry is in order. -/
theorem ofList_sorted (entries : List (Text × α)) : (ofList entries).Sorted := by
  have from_table : ∀ table : Table α, table.Sorted →
      (entries.foldl (fun table entry => table.insert entry.1 entry.2) table).Sorted := by
    induction entries with
    | nil => exact fun _ sorted => sorted
    | cons entry rest ih => exact fun table sorted => ih _ (insert_sorted sorted)
  exact from_table [] .nil

/-- Entries that are in order make the table that they are. -/
theorem ofList_of_sorted (sorted : table.Sorted) : ofList table = table := by
  have from_table : ∀ before : Table α, (before ++ table).Sorted →
      table.foldl (fun table entry => table.insert entry.1 entry.2) before = before ++ table := by
    clear sorted
    induction table with
    | nil => exact fun before _ => (List.append_nil before).symm
    | cons entry rest ih =>
      intro before sorted
      have below : ∀ other ∈ before, other.1 < entry.1 := fun other member =>
        (List.pairwise_append.mp sorted).2.2 other member entry (.head _)
      have shape : before ++ entry :: rest = (before ++ [entry]) ++ rest := by simp
      rw [shape] at sorted ⊢
      rw [List.foldl_cons, insert_last below]
      exact ih _ sorted
  exact from_table [] sorted

end Table

end BlogTerminal
