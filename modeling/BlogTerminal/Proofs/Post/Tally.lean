import BlogTerminal.Post
import BlogTerminal.Proofs.Table
import Mathlib.Algebra.GroupWithZero.Nat
import Mathlib.Data.List.Nodup

/-!
Counted tags. A tag is counted where it stands already, or else behind all others, so after any list
of tags each distinct one stands once, in the order in which they came first, with the number of its
occurrences. Sorting by that number keeps the order of those that occur equally often.
-/

namespace BlogTerminal

namespace Post

variable {seen : List Text} {counts : List (Text × Nat)} {posts : List Post}

/-! ## Counting -/

/-- One more occurrence goes to the count of its tag, or to a new count at the end. -/
theorem countTag_cases (counts : List (Text × Nat)) (tag : Text) :
    (∃ before count behind, counts = before ++ (tag, count) :: behind ∧
      countTag counts tag = before ++ (tag, count + 1) :: behind) ∨
    tag ∉ counts.map Prod.fst ∧ countTag counts tag = counts ++ [(tag, 1)] := by
  induction counts with
  | nil => exact .inr ⟨List.not_mem_nil, rfl⟩
  | cons head rest ih =>
    obtain ⟨name, count⟩ := head
    rw [countTag]
    by_cases here : name = tag
    · rw [if_pos here, here]
      exact .inl ⟨[], count, rest, rfl, rfl⟩
    · rw [if_neg here]
      rcases ih with ⟨before, earlier, behind, split, counted⟩ | ⟨missing, added⟩
      · exact .inl ⟨(name, count) :: before, earlier, behind, by rw [split]; rfl,
          by rw [counted]; rfl⟩
      · refine .inr ⟨?_, by rw [added]; rfl⟩
        rw [List.map_cons, List.mem_cons, not_or]
        exact ⟨Ne.symm here, missing⟩

/-- The counts of the tags `seen`: each tag in the order of its first occurrence, with how often it
occurs. -/
structure Tallied (seen : List Text) (counts : List (Text × Nat)) : Prop where
  listed : ∀ tag, tag ∈ counts.map Prod.fst ↔ tag ∈ seen
  ordered : (counts.map Prod.fst).Pairwise fun first second => seen.idxOf first < seen.idxOf second
  counted : ∀ entry ∈ counts, entry.2 = seen.count entry.1
  total : (counts.map Prod.snd).sum = seen.length

/-- Each tag is counted in one place. -/
theorem Tallied.distinct (tallied : Tallied seen counts) : (counts.map Prod.fst).Nodup :=
  tallied.ordered.imp fun before same => absurd (same ▸ before) (Nat.lt_irrefl _)

/-- The order of the tags that have been seen is not changed by one that comes behind them. -/
theorem Tallied.ordered_behind (tallied : Tallied seen counts) (tag : Text) :
    (counts.map Prod.fst).Pairwise fun first second =>
      (seen ++ [tag]).idxOf first < (seen ++ [tag]).idxOf second := by
  refine tallied.ordered.imp_of_mem fun {first second} listed listed' before => ?_
  rwa [List.idxOf_append_of_mem ((tallied.listed first).mp listed),
    List.idxOf_append_of_mem ((tallied.listed second).mp listed')]

/-- The count of another tag does not change. -/
theorem Tallied.counted_behind (tallied : Tallied seen counts) {tag : Text} {entry : Text × Nat}
    (listed : entry ∈ counts) (other : entry.1 ≠ tag) :
    entry.2 = (seen ++ [tag]).count entry.1 := by
  rw [List.count_append, List.count_singleton, tallied.counted entry listed]
  simp [other.symm]

/-- A tag that has been seen is counted in its place. -/
theorem Tallied.again {before behind : List (Text × Nat)} {tag : Text} {count : Nat}
    (tallied : Tallied seen (before ++ (tag, count) :: behind)) :
    Tallied (seen ++ [tag]) (before ++ (tag, count + 1) :: behind) := by
  have names : (before ++ (tag, count + 1) :: behind).map Prod.fst =
      (before ++ (tag, count) :: behind).map Prod.fst := by
    rw [List.map_append, List.map_append, List.map_cons, List.map_cons]
  have known : tag ∈ seen := (tallied.listed tag).mp (by simp)
  have apart : ∀ entry ∈ before ++ behind, entry.1 ≠ tag := by
    have distinct := tallied.distinct
    rw [List.map_append, List.map_cons, List.nodup_middle, ← List.map_append,
      List.nodup_cons] at distinct
    exact fun entry member same => distinct.1 (List.mem_map.mpr ⟨entry, member, same⟩)
  constructor
  case listed =>
    intro name
    rw [names, tallied.listed, List.mem_append, List.mem_singleton]
    exact ⟨.inl, fun found => found.elim id fun same => same ▸ known⟩
  case ordered =>
    rw [names]
    exact tallied.ordered_behind tag
  case counted =>
    intro entry listed
    rcases List.mem_append.mp listed with earlier | here
    · exact tallied.counted_behind (by simp [earlier]) (apart entry (by simp [earlier]))
    · rcases List.mem_cons.mp here with rfl | later
      · have before := tallied.counted (tag, count) (by simp)
        rw [List.count_append, List.count_singleton_self, ← before]
      · exact tallied.counted_behind (by simp [later]) (apart entry (by simp [later]))
  case total =>
    have total := tallied.total
    simp only [List.map_append, List.map_cons, List.sum_append, List.sum_cons,
      List.length_append, List.length_singleton] at total ⊢
    omega

/-- A tag that has not been seen is counted at the end. -/
theorem Tallied.first (tallied : Tallied seen counts) {tag : Text}
    (missing : tag ∉ counts.map Prod.fst) : Tallied (seen ++ [tag]) (counts ++ [(tag, 1)]) := by
  have unseen : tag ∉ seen := mt (tallied.listed tag).mpr missing
  constructor
  case listed =>
    intro name
    rw [List.map_append, List.mem_append, List.mem_append, tallied.listed]
    rfl
  case ordered =>
    rw [List.map_append, List.pairwise_append]
    refine ⟨tallied.ordered_behind tag, List.pairwise_singleton _ _, fun name listed last new => ?_⟩
    have old : name ∈ seen := (tallied.listed name).mp listed
    rw [List.mem_singleton.mp new, List.idxOf_append_of_mem old, List.idxOf_append_of_notMem unseen]
    exact Nat.lt_of_lt_of_le (List.idxOf_lt_length_of_mem old) (Nat.le_add_right _ _)
  case counted =>
    intro entry listed
    rcases List.mem_append.mp listed with earlier | new
    · have other : entry.1 ≠ tag := fun same => missing (same ▸ List.mem_map_of_mem earlier)
      exact tallied.counted_behind earlier other
    · rw [List.mem_singleton.mp new, List.count_append, List.count_singleton_self,
        List.count_eq_zero_of_not_mem unseen]
  case total => simp [tallied.total]

/-- The counts stay right when one more tag is counted. -/
theorem Tallied.step (tallied : Tallied seen counts) (tag : Text) :
    Tallied (seen ++ [tag]) (countTag counts tag) := by
  rcases countTag_cases counts tag with ⟨before, count, behind, rfl, counted⟩ | ⟨missing, counted⟩
  · rw [counted]
    exact tallied.again
  · rw [counted]
    exact tallied.first missing

/-- The counts stay right over a list of tags. -/
theorem Tallied.run (tallied : Tallied seen counts) (tags : List Text) :
    Tallied (seen ++ tags) (tags.foldl countTag counts) := by
  induction tags generalizing seen counts with
  | nil => rwa [List.append_nil]
  | cons tag rest ih =>
    have behind := ih (tallied.step tag)
    rwa [List.append_assoc] at behind

/-- The counts of a collection are those of all the tags of its posts. -/
theorem tagCounts_tallied (posts : List Post) :
    Tallied (posts.flatMap (·.tags)) (tagCounts posts) := by
  have none : Tallied [] [] :=
    ⟨fun _ => .rfl, .nil, fun _ listed => absurd listed List.not_mem_nil, rfl⟩
  exact none.run _

/-- The tags that are counted are the distinct tags of the posts. -/
theorem tagCounts_names (posts : List Post) :
    ((tagCounts posts).map Prod.fst).Perm (allTags posts) := by
  have tallied := tagCounts_tallied posts
  have distinct : (allTags posts).Nodup := by
    refine (Text.sortedSet_ascends _).imp fun {first second} before same => ?_
    rw [same] at before
    exact List.lt_irrefl _ before
  refine (List.perm_ext_iff_of_nodup tallied.distinct distinct).mpr fun tag => ?_
  rw [tallied.listed, allTags, Text.mem_sortedSet]

/-! ## Sorting by count -/

/-- Sorting by count keeps every tag with its count. -/
theorem tagsByCount_perm (posts : List Post) : (tagsByCount posts).Perm (tagCounts posts) :=
  List.mergeSort_perm _ _

private theorem count_trans (first second third : Text × Nat)
    (near : decide (second.2 ≤ first.2) = true) (far : decide (third.2 ≤ second.2) = true) :
    decide (third.2 ≤ first.2) = true := by
  simp only [decide_eq_true_eq] at near far ⊢
  exact Nat.le_trans far near

private theorem count_total (first second : Text × Nat) :
    (decide (second.2 ≤ first.2) || decide (first.2 ≤ second.2)) = true := by
  simp only [Bool.or_eq_true, decide_eq_true_eq]
  exact Nat.le_total second.2 first.2

/-- Sorted by count, no tag comes behind one that occurs less often. -/
theorem tagsByCount_sorted (posts : List Post) :
    (tagsByCount posts).Pairwise fun first second => second.2 ≤ first.2 :=
  (List.pairwise_mergeSort count_trans count_total _).imp of_decide_eq_true

/-- Tags that occur equally often keep the order of their first occurrences. -/
theorem tagsByCount_stable (posts : List Post) (count : Nat) :
    (tagsByCount posts).filter (·.2 = count) = (tagCounts posts).filter (·.2 = count) := by
  refine Text.mergeSort_filter count_trans count_total fun first _ second _ fits fits' => ?_
  exact decide_eq_true (of_decide_eq_true fits' ▸ of_decide_eq_true fits ▸ Nat.le_refl _)

/-- The tags of both posts occur twice, and the first of them came first. -/
example :
    let first : Post := ⟨"first", [], [], [], ["web", "rust", "go"], none, []⟩
    let second : Post := ⟨"second", [], [], [], ["go", "rust"], none, []⟩
    tagCounts [first, second] = [("web".toList, 1), ("rust".toList, 2), ("go".toList, 2)] ∧
      tagsByCount [first, second] = [("rust".toList, 2), ("go".toList, 2), ("web".toList, 1)] :=
  ⟨by decide, by cbv⟩

end Post

/-! ## Members of what is listed

Whatever is listed comes from the collection: the posts of every order, group and search are posts
of it, and the names of every listing are names that some post carries.
-/

namespace Post

variable {posts : List Post} {post : Post} {name : Text}

/-- Every order lists the posts of the collection, each as often as it is there. -/
theorem inOrder_perm (order : Order) (posts : List Post) : (inOrder order posts).Perm posts := by
  cases order with
  | newestFirst => exact List.mergeSort_perm posts _
  | oldestFirst => exact List.mergeSort_perm posts _

/-- Ordering a collection keeps its posts. -/
theorem mem_inOrder {order : Order} : post ∈ inOrder order posts ↔ post ∈ posts :=
  (inOrder_perm order posts).mem_iff

/-- The names of series are those that some post carries. -/
theorem mem_seriesNames : name ∈ seriesNames posts ↔ ∃ post ∈ posts, post.series = some name := by
  rw [seriesNames, Text.mem_sortedSet, List.mem_filterMap]

/-- The tags are those that some post carries. -/
theorem mem_allTags : name ∈ allTags posts ↔ ∃ post ∈ posts, name ∈ post.tags := by
  rw [allTags, Text.mem_sortedSet, List.mem_flatMap]

private theorem mem_inSeries :
    post ∈ inSeries posts name ↔ post ∈ posts ∧ post.series = some name := by
  simp [inSeries]

/-- The posts of a series are those that carry its name. -/
theorem mem_ofSeries : post ∈ ofSeries posts name ↔ post ∈ posts ∧ post.series = some name := by
  rw [ofSeries, mem_inOrder, mem_inSeries]

/-- The posts of a tag are those that have it. -/
theorem mem_withTag : post ∈ withTag posts name ↔ post ∈ posts ∧ post.hasTag name := by
  rw [withTag, mem_inOrder, List.mem_filter]

/-- A post that is searched for is one of the collection. -/
theorem search_member {ignoreCase : Bool} {pattern : Text}
    (found : post ∈ search ignoreCase pattern posts) : post ∈ posts :=
  (List.mem_filter.mp found).1

/-- A post that is looked up is one of the collection. -/
theorem find_member {slug : Text} (found : find? posts slug = some post) : post ∈ posts :=
  List.mem_of_find?_eq_some found

/-! ### Groups -/

/-- Posts are grouped under names that some post carries. -/
theorem bySeries_name {members : List Post} (listed : (name, members) ∈ bySeries posts) :
    ∃ post ∈ posts, post.series = some name := by
  obtain ⟨series, known, same⟩ := List.mem_map.mp listed
  cases same
  exact mem_seriesNames.mp known

/-- The posts of a group are posts of the collection. -/
theorem bySeries_member {members : List Post} (listed : (name, members) ∈ bySeries posts)
    (member : post ∈ members) : post ∈ posts := by
  obtain ⟨series, _, same⟩ := List.mem_map.mp listed
  cases same
  exact (mem_inSeries.mp member).1

private theorem addToYears_member {first : Post} {years : List (Option Int × List Post)}
    {year : Option Int} {bucket : List Post} (listed : (year, bucket) ∈ addToYears first years)
    (member : post ∈ bucket) :
    post = first ∨ ∃ year bucket, (year, bucket) ∈ years ∧ post ∈ bucket := by
  cases years with
  | nil =>
    cases List.mem_singleton.mp listed
    exact .inl (List.mem_singleton.mp member)
  | cons head rest =>
    obtain ⟨headYear, headPosts⟩ := head
    simp only [addToYears] at listed
    split at listed
    · rcases List.mem_cons.mp listed with same | later
      · cases same
        rcases List.mem_cons.mp member with rfl | inside
        · exact .inl rfl
        · exact .inr ⟨_, headPosts, .head _, inside⟩
      · exact .inr ⟨year, bucket, .tail _ later, member⟩
    · rcases List.mem_cons.mp listed with same | later
      · cases same
        exact .inl (List.mem_singleton.mp member)
      · exact .inr ⟨year, bucket, later, member⟩

/-- A post below some year of the archives is a post of the collection. -/
theorem byYear_member {year : Option Int} {bucket : List Post}
    (listed : (year, bucket) ∈ byYear posts) (member : post ∈ bucket) : post ∈ posts := by
  have ordered : ∀ (ordered : List Post) year bucket, (year, bucket) ∈ ordered.foldr addToYears [] →
      post ∈ bucket → post ∈ ordered := by
    intro ordered
    induction ordered with
    | nil => exact fun _ _ listed => absurd listed List.not_mem_nil
    | cons first rest ih =>
      intro year bucket listed member
      rcases addToYears_member listed member with rfl | ⟨year, bucket, earlier, inside⟩
      · exact .head _
      · exact .tail _ (ih year bucket earlier inside)
  exact mem_inOrder.mp (ordered _ year bucket listed member)

/-! ### Counted tags -/

/-- The tags that are counted are those of the posts. -/
theorem mem_tagsByCount :
    name ∈ (tagsByCount posts).map Prod.fst ↔ ∃ post ∈ posts, name ∈ post.tags := by
  rw [((tagsByCount_perm posts).map Prod.fst).mem_iff, (tagCounts_tallied posts).listed,
    List.mem_flatMap]

/-- A tag that is counted is carried by some post. -/
theorem tagsByCount_name {count : Nat} (listed : (name, count) ∈ tagsByCount posts) :
    ∃ post ∈ posts, name ∈ post.tags :=
  mem_tagsByCount.mp (List.mem_map_of_mem listed)

end Post

end BlogTerminal
