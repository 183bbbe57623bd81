import BlogTerminal.Proofs.Date.Stamp
import BlogTerminal.Proofs.Post.Tally

/-!
Posts in order of publication. The order goes by where the publication lies on the time line, and
posts published at the same moment stay as they are in the collection. The years only ever fall in a
list that is sorted this way, so comparing a post with the bucket in front is enough to collect the
posts of a year.
-/

namespace BlogTerminal

/-! ## Values that may be missing

A missing value comes before all others.
-/

namespace Optional

variable {α : Type} [LinearOrder α] {first second third : Option α}

/-- A value is not below another exactly when the other is at most it, missing or not. -/
theorem not_lt : ¬ first < second ↔ second ≤ first := by
  cases first with
  | none => cases second <;> simp
  | some a => cases second <;> simp

theorem le_trans (near : first ≤ second) (far : second ≤ third) : first ≤ third := by
  cases first with
  | none => exact Option.none_le
  | some a =>
    cases second with
    | none => exact absurd near Option.not_some_le_none
    | some b =>
      cases third with
      | none => exact absurd far Option.not_some_le_none
      | some c =>
        rw [Option.some_le_some] at near far ⊢
        exact near.trans far

theorem le_total (first second : Option α) : first ≤ second ∨ second ≤ first := by
  cases first with
  | none => exact .inl Option.none_le
  | some a =>
    cases second with
    | none => exact .inr Option.none_le
    | some b =>
      rw [Option.some_le_some, Option.some_le_some]
      exact LinearOrder.le_total a b

private theorem le_of_eq (same : first = second) : first ≤ second := by
  rw [same]
  exact (le_total second second).elim id id

theorem lt_trans (near : first < second) (far : second < third) : first < third := by
  cases third with
  | none => simp at far
  | some c =>
    cases first with
    | none => exact Option.none_lt_some
    | some a =>
      cases second with
      | none => simp at near
      | some b =>
        rw [Option.some_lt_some] at near far ⊢
        exact near.trans far

end Optional

/-! ## Posts on the time line -/

namespace Post

variable {posts ordered : List Post} {post first second : Post} {order : Order}

/-- Where the publication of the post lies on the time line. A post without a readable date lies
before all others. -/
def instant (post : Post) : Option (ℤ ×ₗ ℕ) := post.published.map Moment.instant

private theorem published_exists {moment : Moment} (dated : post.published = some moment) :
    moment.Exists :=
  Moment.ofText_exists dated

/-- The fields by which posts are ordered put them in the order of time. -/
theorem rank_lt_iff : first.rank < second.rank ↔ first.instant < second.instant := by
  rw [rank, rank, instant, instant]
  cases dated : first.published with
  | none =>
    cases second.published with
    | none => exact iff_of_false (List.lt_irrefl _) Option.not_lt_none
    | some moment' => exact iff_of_true (List.nil_lt_cons _ _) Option.none_lt_some
  | some moment =>
    cases dated' : second.published with
    | none => exact iff_of_false (List.not_lt_nil _) Option.not_lt_none
    | some moment' =>
      simp only [Option.map_some, Option.getD_some, Option.some_lt_some]
      exact Moment.rank_lt_iff (published_exists dated) (published_exists dated')

/-- Posts lie at the same place exactly when they were published at the same moment. -/
theorem instant_inj : first.instant = second.instant ↔ first.published = second.published := by
  refine ⟨fun same => ?_, fun same => by rw [instant, instant, same]⟩
  rw [instant, instant] at same
  cases dated : first.published with
  | none => exact (Option.map_eq_none_iff.mp (same.symm.trans (by rw [dated]; rfl))).symm
  | some moment =>
    rw [dated] at same
    obtain ⟨moment', dated', place⟩ := Option.map_eq_some_iff.mp same.symm
    rw [dated', Moment.instant_injective (published_exists dated') (published_exists dated) place]

/-- The years go with the order of time, and no year comes before all years. -/
theorem year_lt_or_eq (before : first.instant ≤ second.instant) :
    first.year < second.year ∨ first.year = second.year := by
  rw [instant, instant] at before
  rw [year, year]
  cases dated : first.published with
  | none =>
    cases second.published with
    | none => exact .inr rfl
    | some moment' => exact .inl Option.none_lt_some
  | some moment =>
    rw [dated] at before
    cases dated' : second.published with
    | none =>
      rw [dated'] at before
      exact absurd before Option.not_some_le_none
    | some moment' =>
      rw [dated', Option.map_some, Option.map_some, Option.some_le_some] at before
      simp only [Option.map_some, Option.some_lt_some, Option.some_inj]
      by_contra later
      have behind : moment'.rank < moment.rank :=
        Moment.rank_lt_iff_fields.mpr (.inl (.inl (by omega)))
      rw [Moment.rank_lt_iff (published_exists dated') (published_exists dated)] at behind
      exact behind.not_ge before

end Post

/-- The first post may stand in front of the second. -/
def Order.Allows (order : Order) (first second : Post) : Prop :=
  match order with
  | newestFirst => second.instant ≤ first.instant
  | oldestFirst => first.instant ≤ second.instant

namespace Order

variable {order : Order} {first second : Post}

/-- The comparison by which an order is sorted. -/
def allows (order : Order) (first second : Post) : Bool :=
  match order with
  | newestFirst => !decide (first.rank < second.rank)
  | oldestFirst => !decide (second.rank < first.rank)

private theorem allows_iff : order.allows first second = true ↔ order.Allows first second := by
  cases order with
  | newestFirst => simp [allows, Allows, Post.rank_lt_iff, Optional.not_lt]
  | oldestFirst => simp [allows, Allows, Post.rank_lt_iff, Optional.not_lt]

private theorem allows_trans (order : Order) (first second third : Post)
    (near : order.allows first second = true) (far : order.allows second third = true) :
    order.allows first third = true := by
  rw [allows_iff] at near far ⊢
  cases order with
  | newestFirst => exact Optional.le_trans far near
  | oldestFirst => exact Optional.le_trans near far

private theorem allows_total (order : Order) (first second : Post) :
    (order.allows first second || order.allows second first) = true := by
  rw [Bool.or_eq_true, allows_iff, allows_iff]
  cases order with
  | newestFirst => exact Optional.le_total second.instant first.instant
  | oldestFirst => exact Optional.le_total first.instant second.instant

private theorem allows_same (same : first.published = second.published) :
    order.Allows first second := by
  have place : first.instant = second.instant := Post.instant_inj.mpr same
  cases order with
  | newestFirst => exact Optional.le_of_eq place.symm
  | oldestFirst => exact Optional.le_of_eq place

end Order

namespace Post

/-! ## The order of the posts -/

/-- Every order is a stable sort by what it allows. -/
theorem inOrder_eq (order : Order) (posts : List Post) :
    inOrder order posts = posts.mergeSort order.allows := by
  cases order with
  | newestFirst => rfl
  | oldestFirst => rfl

private theorem inOrder_sorted (order : Order) (posts : List Post) :
    (inOrder order posts).Pairwise order.Allows := by
  rw [inOrder_eq]
  exact (List.pairwise_mergeSort order.allows_trans order.allows_total posts).imp
    Order.allows_iff.mp

/-- Posts published at the same moment stay as they are in the collection. -/
theorem inOrder_stable (order : Order) (posts : List Post) (moment : Option Moment) :
    (inOrder order posts).filter (·.published = moment) = posts.filter (·.published = moment) := by
  rw [inOrder_eq]
  refine Text.mergeSort_filter order.allows_trans order.allows_total
    fun first _ second _ published published' => ?_
  have same := (of_decide_eq_true published).trans (of_decide_eq_true published').symm
  exact Order.allows_iff.mpr (Order.allows_same same)

/-! ## Years -/

/-- The bucket of a year holds posts of that year, and it holds one. -/
structure Filed (entry : Option Int × List Post) : Prop where
  given : entry.2 ≠ []
  of_year : ∀ post ∈ entry.2, post.year = entry.1

private theorem addToYears_posts (post : Post) (years : List (Option Int × List Post)) :
    (addToYears post years).flatMap Prod.snd = post :: years.flatMap Prod.snd := by
  cases years with
  | nil => rfl
  | cons entry rest =>
    rw [addToYears]
    split <;> rfl

private theorem addToYears_filed {years : List (Option Int × List Post)}
    (filed : ∀ entry ∈ years, Filed entry) : ∀ entry ∈ addToYears post years, Filed entry := by
  have alone : Filed (post.year, [post]) :=
    ⟨List.cons_ne_nil _ _, fun post member => by rw [List.mem_singleton.mp member]⟩
  cases years with
  | nil => exact List.forall_mem_singleton.mpr alone
  | cons head rest =>
    obtain ⟨first, others⟩ := List.forall_mem_cons.mp filed
    rw [addToYears]
    split
    · rename_i same
      exact List.forall_mem_cons.mpr
        ⟨⟨List.cons_ne_nil _ _, List.forall_mem_cons.mpr ⟨same, first.of_year⟩⟩, others⟩
    · exact List.forall_mem_cons.mpr ⟨alone, filed⟩

/-- A post in front of the years, none of which is later than its own, leaves them falling. -/
theorem addToYears_years {years : List (Option Int × List Post)}
    (falling : (years.map Prod.fst).Pairwise (· > ·))
    (known : ∀ entry ∈ years, entry.1 < post.year ∨ entry.1 = post.year) :
    ((addToYears post years).map Prod.fst).Pairwise (· > ·) := by
  cases years with
  | nil => exact List.pairwise_singleton _ _
  | cons head rest =>
    rw [addToYears]
    split
    · exact falling
    · rename_i different
      have below : head.1 < post.year :=
        (known head (.head _)).resolve_right fun same => different same.symm
      refine List.pairwise_cons.mpr ⟨?_, falling⟩
      intro year listed
      rcases List.mem_cons.mp listed with rfl | later
      · exact below
      · exact Optional.lt_trans ((List.pairwise_cons.mp falling).1 year later) below

/-- The years with their posts, made of posts that stand in some order. -/
abbrev grouped (ordered : List Post) : List (Option Int × List Post) := ordered.foldr addToYears []

private theorem grouped_posts (ordered : List Post) :
    (grouped ordered).flatMap Prod.snd = ordered := by
  induction ordered with
  | nil => rfl
  | cons post rest ih => rw [grouped, List.foldr_cons, addToYears_posts, ih]

private theorem grouped_filed (ordered : List Post) : ∀ entry ∈ grouped ordered, Filed entry := by
  induction ordered with
  | nil => exact fun entry listed => absurd listed List.not_mem_nil
  | cons post rest ih => exact addToYears_filed ih

private theorem grouped_years (sorted : ordered.Pairwise Order.newestFirst.Allows) :
    ((grouped ordered).map Prod.fst).Pairwise (· > ·) := by
  induction sorted with
  | nil => exact .nil
  | @cons post rest behind _ ih =>
    apply addToYears_years ih
    intro entry listed
    -- a bucket is there for a post of its year, which stands behind the one that comes in front
    obtain ⟨given, of_year⟩ := grouped_filed rest entry listed
    obtain ⟨member, inside⟩ := List.exists_mem_of_ne_nil _ given
    rw [← of_year member inside]
    apply year_lt_or_eq
    apply behind
    rw [← grouped_posts rest]
    exact List.mem_flatMap.mpr ⟨entry, listed, inside⟩

/-- Posts are listed by their publication: every post as often as it is there, sorted by where its
publication lies on the time line, in the order of the collection where that is the same. The years
fall, behind them stand the posts without one, and year by year they are the posts newest first. -/
theorem listed_by_publication (posts : List Post) :
    (∀ order, (inOrder order posts).Perm posts ∧ ∀ moment,
      (inOrder order posts).filter (·.published = moment) =
        posts.filter (·.published = moment)) ∧
    (inOrder .newestFirst posts).Pairwise (fun first second => second.instant ≤ first.instant) ∧
    (inOrder .oldestFirst posts).Pairwise (fun first second => first.instant ≤ second.instant) ∧
    ((byYear posts).map Prod.fst).Pairwise (fun first second => second < first) ∧
    (∀ year bucket, (year, bucket) ∈ byYear posts →
      bucket ≠ [] ∧ ∀ post ∈ bucket, post.year = year) ∧
    (byYear posts).flatMap Prod.snd = inOrder .newestFirst posts := by
  refine ⟨fun order => ⟨inOrder_perm order posts, inOrder_stable order posts⟩,
    inOrder_sorted .newestFirst posts, inOrder_sorted .oldestFirst posts,
    grouped_years (inOrder_sorted .newestFirst posts), ?_, grouped_posts _⟩
  intro year bucket listed
  obtain ⟨given, of_year⟩ := grouped_filed _ _ listed
  exact ⟨given, of_year⟩

end Post

/-! ## Stamps

Only the instant that a stamp denotes matters: a post whose stamp is written for another zone is the
same to every order and to the years, and its date is shown as before.
-/

/-- The lists agree but for one place, where the first has `old` and the second has `new`. -/
def Exchanged {α : Type} (old new : α) (first second : List α) : Prop :=
  ∃ before after, first = before ++ old :: after ∧ second = before ++ new :: after

namespace Exchanged

variable {α : Type} {old new : α} {first second : List α}

/-- An item in front of both lists leaves the place where they differ. -/
theorem cons (item : α) (exchanged : Exchanged old new first second) :
    Exchanged old new (item :: first) (item :: second) := by
  obtain ⟨before, after, rfl, rfl⟩ := exchanged
  exact ⟨item :: before, after, rfl, rfl⟩

/-- Two lists can differ in their first place. -/
theorem head (old new : α) (rest : List α) : Exchanged old new (old :: rest) (new :: rest) :=
  ⟨[], rest, rfl, rfl⟩

end Exchanged

namespace Post

variable {post other : Post} {posts others : List Post}
  {years years' : List (Option Int × List Post)}

private theorem allows_congr {order : Order} {a b a' b' : Post} (same : a.published = a'.published)
    (same' : b.published = b'.published) : order.allows a b = order.allows a' b' := by
  rw [Bool.eq_iff_iff, Order.allows_iff, Order.allows_iff]
  cases order with
  | newestFirst => rw [Order.Allows, Order.Allows, instant_inj.mpr same, instant_inj.mpr same']
  | oldestFirst => rw [Order.Allows, Order.Allows, instant_inj.mpr same, instant_inj.mpr same']

/-- An order sees of a post only when it was published. -/
theorem inOrder_exchanged (same : post.published = other.published)
    (exchanged : Exchanged post other posts others) (order : Order) :
    Exchanged post other (inOrder order posts) (inOrder order others) := by
  obtain ⟨front, back, rfl, rfl⟩ := exchanged
  -- both lists are this one, with the open place filled
  let places : List (Option Post) := front.map some ++ none :: back.map some
  let sorted := places.mergeSort fun first second =>
    order.allows (first.getD post) (second.getD post)
  have filled {filler : Post} (agrees : post.published = filler.published) :
      inOrder order (front ++ filler :: back) = sorted.map (·.getD filler) := by
    have whole : front ++ filler :: back = places.map (·.getD filler) := by simp [places]
    rw [inOrder_eq, whole]
    refine (List.map_mergeSort ?_).symm
    intro first _ second _
    have seen (place : Option Post) :
        (place.getD post).published = (place.getD filler).published := by
      cases place with
      | none => exact agrees
      | some _ => rfl
    exact allows_congr (seen first) (seen second)
  have listed : sorted.Perm (none :: (front ++ back).map some) := by
    rw [List.map_append]
    exact (List.mergeSort_perm _ _).trans List.perm_middle
  obtain ⟨before, after, split⟩ := List.append_of_mem (listed.mem_iff.mpr (.head _))
  have rest : (before ++ after).Perm ((front ++ back).map some) :=
    (List.perm_middle.symm.trans (split ▸ listed)).cons_inv
  have alike : ∀ place ∈ before ++ after, place.getD post = place.getD other := by
    intro place inside
    obtain ⟨known, _, rfl⟩ := List.mem_map.mp (rest.mem_iff.mp inside)
    rfl
  obtain ⟨alikeBefore, alikeAfter⟩ := List.forall_mem_append.mp alike
  refine ⟨before.map (·.getD post), after.map (·.getD post), ?_, ?_⟩
  · rw [filled rfl, split, List.map_append, List.map_cons, Option.getD_none]
  · rw [filled same, split, List.map_append, List.map_cons, Option.getD_none,
      List.map_congr_left alikeBefore, List.map_congr_left alikeAfter]

/-- Buckets in which a post is exchanged, below the same year and with nothing else changed. -/
def ExchangedBelow (old new : Post) (years years' : List (Option Int × List Post)) : Prop :=
  ∃ year bucket bucket', Exchanged old new bucket bucket' ∧
    Exchanged (year, bucket) (year, bucket') years years'

/-- A post that comes in front goes into the same bucket either way. -/
theorem addToYears_exchanged (first : Post) (exchanged : ExchangedBelow post other years years') :
    ExchangedBelow post other (addToYears first years) (addToYears first years') := by
  obtain ⟨year, bucket, bucket', inside, before, after, rfl, rfl⟩ := exchanged
  cases before with
  | nil =>
    simp only [List.nil_append, addToYears]
    split
    · exact ⟨year, _, _, inside.cons first, .head _ _ _⟩
    · exact ⟨year, _, _, inside, (Exchanged.head _ _ _).cons _⟩
  | cons entry before =>
    simp only [List.cons_append, addToYears]
    split
    · exact ⟨year, _, _, inside, _ :: before, after, rfl, rfl⟩
    · exact ⟨year, _, _, inside, _ :: entry :: before, after, rfl, rfl⟩

/-- The posts exchanged in front of the same years go into the same bucket. -/
theorem addToYears_head (same : post.year = other.year) :
    ExchangedBelow post other (addToYears post years) (addToYears other years) := by
  cases years with
  | nil =>
    rw [addToYears, addToYears, same]
    exact ⟨_, _, _, .head _ _ _, .head _ _ _⟩
  | cons entry rest =>
    rw [addToYears, addToYears, same]
    split
    · exact ⟨_, _, _, .head _ _ _, .head _ _ _⟩
    · exact ⟨_, _, _, .head _ _ _, .head _ _ _⟩

private theorem grouped_exchanged (same : post.year = other.year)
    (exchanged : Exchanged post other posts others) :
    ExchangedBelow post other (grouped posts) (grouped others) := by
  obtain ⟨before, after, rfl, rfl⟩ := exchanged
  induction before with
  | nil => exact addToYears_head same
  | cons first before ih => exact addToYears_exchanged first ih

/-! ### Stamps of one instant -/

private theorem published_stamp {stamp : Stamp} (dated : post.date = stamp.text) :
    post.published = some stamp.moment := by
  rw [published, dated, stamp.ofText_text]

private theorem listedDate_stamp (stamp : Stamp) :
    listedDate stamp.text = stamp.moment.date.listed := by
  rw [listedDate, stamp.ofText_text]

/-- The post with another date. -/
def redated (post : Post) (date : Text) : Post := { post with date := date }

/-- Posts are compared and shown by the instant that their stamp denotes, whichever zone it is
written for. A post that is dated anew, with another stamp of the same instant, is published at the
same moment, which lies where the instant does; its date is shown as before; it stands where it
stood in every order, and in the bucket of the same year. -/
theorem restamped {zoned rezoned : Stamp} (same : zoned.instant = rezoned.instant)
    (dated : post.date = zoned.text)
    (exchanged : Exchanged post (post.redated rezoned.text) posts others) :
    (∃ moment, moment.instant = zoned.instant.place ∧
      post.published = some moment ∧ (post.redated rezoned.text).published = some moment ∧
      listedDate post.date = moment.date.listed ∧
      listedDate (post.redated rezoned.text).date = moment.date.listed) ∧
    (∀ order, Exchanged post (post.redated rezoned.text)
      (inOrder order posts) (inOrder order others)) ∧
    ExchangedBelow post (post.redated rezoned.text) (byYear posts) (byYear others) := by
  have moments : rezoned.moment = zoned.moment := (Stamp.moment_congr same).symm
  have before : post.published = some zoned.moment := published_stamp dated
  have behind : (post.redated rezoned.text).published = some zoned.moment := by
    rw [← moments]
    exact published_stamp rfl
  have shown : listedDate post.date = zoned.moment.date.listed := by
    rw [dated, listedDate_stamp]
  have reshown : listedDate (post.redated rezoned.text).date = zoned.moment.date.listed := by
    rw [redated, listedDate_stamp, moments]
  have agree : post.published = (post.redated rezoned.text).published := before.trans behind.symm
  have years : post.year = (post.redated rezoned.text).year := by rw [year, year, agree]
  exact ⟨⟨zoned.moment, zoned.instant_moment, before, behind, shown, reshown⟩,
    inOrder_exchanged agree exchanged,
    grouped_exchanged years (inOrder_exchanged agree exchanged .newestFirst)⟩

/-- A post from half past midnight of New Year's Day, in a zone an hour ahead, and one from the
evening of New Year's Eve, in a zone four hours and a half behind, are of the old year both. -/
theorem restamped_newYear :
    let post : Post := ⟨"bells", "Bells", [], "2025-01-01T00:30:00.50+01:00", [], none, []⟩
    let redated := post.redated "2024-12-31t19:00:00.5-04:30"
    let noon : Post := ⟨"noon", "Noon", [], "2024-12-31T12:00:00", [], none, []⟩
    (∃ zoned rezoned : Stamp, zoned.text = post.date ∧ rezoned.text = redated.date ∧
      zoned.instant = rezoned.instant ∧ ∃ moment, moment.instant = zoned.instant.place ∧
        post.published = some moment ∧ redated.published = some moment) ∧
    post.year = some 2024 ∧ redated.year = some 2024 ∧
    ExchangedBelow post redated (byYear [noon, post]) (byYear [noon, redated]) := by
  intro post redated noon
  let zoned : Stamp := ⟨2025, 1, 1, 'T', 0, 30, 0, "50",
    .shifted '+' 1 0 (by simp) (by omega) (by omega),
    by omega, Date.isValid_iff.mp (by decide), by simp, by omega, by omega, by omega,
    by simp [Text.AllDigits]⟩
  let rezoned : Stamp := ⟨2024, 12, 31, 't', 19, 0, 0, "5",
    .shifted '-' 4 30 (by simp) (by omega) (by omega),
    by omega, Date.isValid_iff.mp (by decide), by simp, by omega, by omega, by omega,
    by simp [Text.AllDigits]⟩
  have spelled : zoned.text = post.date := by decide
  have respelled : rezoned.text = redated.date := by decide
  have same : zoned.instant = rezoned.instant := by
    have minute : zoned.instant.minute = rezoned.instant.minute := by decide
    have fraction : zoned.instant.fraction = rezoned.instant.fraction := by
      have value : Text.value "50" = 50 ∧ Text.value "5" = 5 := by decide
      change (Text.value "50" : ℚ) / 10 ^ 2 = (Text.value "5" : ℚ) / 10 ^ 1
      rw [value.1, value.2]
      norm_num
    rw [Instant.mk.injEq]
    exact ⟨minute, rfl, fraction⟩
  have exchanged : Exchanged post (post.redated rezoned.text) [noon, post] [noon, redated] := by
    rw [respelled]
    exact (Exchanged.head _ _ _).cons noon
  obtain ⟨⟨moment, place, before, behind, _⟩, _, years⟩ := restamped same spelled.symm exchanged
  rw [respelled] at behind years
  exact ⟨⟨zoned, rezoned, spelled, respelled, same, moment, place, before, behind⟩, by decide,
    by decide, years⟩

end Post

end BlogTerminal
