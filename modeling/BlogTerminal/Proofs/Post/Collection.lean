import BlogTerminal.Post
import BlogTerminal.Proofs.Post.Slug
import Mathlib.Data.List.Nodup

/-!
Accepted collections. A collection is accepted when each post has a slug that is not blank and that
no other post has. Slugs are told apart by case there and looked up in any case, so a post is found
by its own slug only as long as no post in front of it has the same one in another case.
-/

namespace BlogTerminal

/-! ## Look-ups

A look-up answers the first one that fits, so something that fits itself is answered exactly when
nothing in front of it fits as well.
-/

section

variable {α β : Type} {p : α → Bool} {key : α → β} {before behind : List α} {item : α}

/-- Where no two items have the same key, none in front of an item has the key of that item. -/
theorem apart_in_front (distinct : ((before ++ item :: behind).map key).Nodup) :
    ∀ other ∈ before, key other ≠ key item := by
  intro other earlier
  rw [List.map_append, List.map_cons] at distinct
  exact (List.nodup_append.mp distinct).2.2 _ (List.mem_map_of_mem earlier) _ (.head _)

/-- A search stops at an item that fits exactly when none in front of it fits. -/
theorem first_found (fits : p item = true) (apart : item ∉ before) :
    (before ++ item :: behind).find? p = some item ↔ ∀ other ∈ before, p other = false := by
  rw [List.find?_append, List.find?_cons_of_pos fits]
  cases found : before.find? p with
  | none =>
    have unfit : ∀ other ∈ before, p other = false := by simpa using List.find?_eq_none.mp found
    exact iff_of_true rfl unfit
  | some other =>
    have member : other ∈ before := List.mem_of_find?_eq_some found
    have different : other ≠ item := fun same => apart (same ▸ member)
    have fitting : p other = true := List.find?_some found
    refine iff_of_false (by simpa using different) fun unfit => ?_
    rw [unfit other member] at fitting
    cases fitting

namespace Post

variable {posts : List Post} {name first : Text}

/-- A post that does not stand in front of itself is found by its slug exactly when none in front of
it has this slug in any case. -/
theorem find_first {before behind : List Post} {post : Post} (apart : post ∉ before) :
    find? (before ++ post :: behind) post.slug = some post ↔
      ∀ other ∈ before, other.slug.lower ≠ post.slug.lower := by
  rw [find?, first_found (by simp) apart]
  simp only [decide_eq_false_iff_not]

/-- Something is found by the slug of a series that a post is in. -/
theorem findSeries_held {post : Post} {series : Text} (member : post ∈ posts)
    (held : post.series = some series) (same : slugOf series = slugOf name) :
    ∃ first, findSeries? posts name = some first := by
  have slug : post.seriesSlug = some (slugOf name) := by
    rw [seriesSlug, held, Option.map_some, same]
  exact Option.isSome_iff_exists.mp (findSeries_isSome.mpr ⟨post, member, slug⟩)

/-- Something is found by the slug of a tag that a post has. -/
theorem findTag_held {post : Post} {tag : Text} (member : post ∈ posts) (held : tag ∈ post.tags)
    (same : slugOf tag = slugOf name) : ∃ first, findTag? posts name = some first := by
  have tagged : post.hasTag name = true :=
    List.any_eq_true.mpr ⟨tag, held, decide_eq_true same⟩
  exact Option.isSome_iff_exists.mp (findTag_isSome.mpr ⟨post, member, tagged⟩)

/-- Of the series with a slug, the one whose name comes first is found. -/
theorem findSeries_some_iff : findSeries? posts name = some first ↔
    ((∃ post ∈ posts, post.series = some first) ∧ slugOf first = slugOf name) ∧
      ∀ post ∈ posts, ∀ series ∈ post.series, slugOf series = slugOf name → ¬ series < first := by
  have least {first series : Text} {post : Post} (found : findSeries? posts name = some first)
      (member : post ∈ posts) (held : post.series = some series)
      (same : slugOf series = slugOf name) : ¬ series < first := by
    have listed : series ∈ seriesNames posts := mem_seriesNames.mpr ⟨post, member, held⟩
    exact Text.sortedSet_first found listed (by simpa using same)
  constructor
  · intro found
    exact ⟨findSeries_slug found, fun post member series held => least found member held⟩
  · rintro ⟨⟨⟨post, member, held⟩, same⟩, foremost⟩
    obtain ⟨other, found⟩ := findSeries_held member held same
    obtain ⟨⟨bearer, among, carried⟩, alike⟩ := findSeries_slug found
    rw [found, Option.some_inj]
    by_contra different
    have before : ¬ first < other := least found member held same
    exact foremost bearer among other carried alike (Text.lt_of_not_lt (Ne.symm different) before)

end Post

end

/-! ## Collections -/

namespace Post

variable {posts : List Post} {seen : List Text} {text : Text}

private theorem checkSlugs_ok_iff : checkSlugs seen posts = .ok () ↔
    (∀ post ∈ posts, post.slug.trim ≠ [] ∧ post.slug ∉ seen) ∧ (posts.map slug).Nodup := by
  induction posts generalizing seen with
  | nil => exact iff_of_true rfl ⟨by simp, .nil⟩
  | cons post rest ih =>
    unfold checkSlugs
    by_cases blank : post.slug.trim = []
    · simp [blank, throw, throwThe, MonadExceptOf.throw]
    by_cases repeated : post.slug ∈ seen
    · simp [blank, repeated, throw, throwThe, MonadExceptOf.throw]
    rw [if_neg (by simpa using blank), if_neg repeated, ih, List.forall_mem_cons, List.map_cons,
      List.nodup_cons, List.mem_map]
    constructor
    · rintro ⟨proper, distinct⟩
      refine ⟨⟨⟨blank, repeated⟩, fun other member => ?_⟩, ?_, distinct⟩
      · exact ⟨(proper other member).1, fun earlier => (proper other member).2 (.tail _ earlier)⟩
      · rintro ⟨other, member, same⟩
        exact (proper other member).2 (same ▸ .head _)
    · rintro ⟨⟨_, proper⟩, apart, distinct⟩
      refine ⟨fun other member => ⟨(proper other member).1, fun known => ?_⟩, distinct⟩
      rcases List.mem_cons.mp known with same | earlier
      · exact apart ⟨other, member, same⟩
      · exact (proper other member).2 earlier

/-- What is accepted is a list of posts whose slugs are distinct and not blank. -/
theorem collection_ok_iff : collectionOfText text = .ok posts ↔
    listOfText? text = some posts ∧ (∀ post ∈ posts, post.slug.trim ≠ []) ∧
      (posts.map slug).Nodup := by
  unfold collectionOfText
  cases read : listOfText? text with
  | none => simp [throw, throwThe, MonadExceptOf.throw]
  | some listed =>
    have checked : checkSlugs [] listed = .ok () ↔
        (∀ post ∈ listed, post.slug.trim ≠ []) ∧ (listed.map slug).Nodup := by
      simp [checkSlugs_ok_iff]
    simp only [Option.some.injEq]
    constructor
    · intro accepted
      cases outcome : checkSlugs [] listed with
      | error error =>
        rw [outcome] at accepted
        cases accepted
      | ok done =>
        rw [outcome] at accepted
        cases accepted
        exact ⟨rfl, checked.mp outcome⟩
    · rintro ⟨rfl, proper⟩
      rw [checked.mpr proper]
      rfl

/-- A post of an accepted collection is found by its slug exactly when no post in front of it has
the same slug in another case. So all posts are found by their slugs exactly when the slugs differ
in more than case. -/
theorem accepted_found (accepted : collectionOfText text = .ok posts) :
    (∀ before post behind, posts = before ++ post :: behind →
      (find? posts post.slug = some post ↔
        ∀ other ∈ before, other.slug.lower ≠ post.slug.lower)) ∧
      ((∀ post ∈ posts, find? posts post.slug = some post) ↔
        (posts.map fun post => post.slug.lower).Nodup) := by
  have distinct : (posts.map slug).Nodup := (collection_ok_iff.mp accepted).2.2
  have first (before : List Post) (post : Post) (behind : List Post)
      (split : posts = before ++ post :: behind) :
      find? posts post.slug = some post ↔
        ∀ other ∈ before, other.slug.lower ≠ post.slug.lower := by
    rw [split] at distinct ⊢
    exact find_first fun repeated => apart_in_front distinct post repeated rfl
  refine ⟨first, ?_⟩
  constructor
  · intro found
    refine List.Nodup.map_on (fun post member other listed same => ?_) (.of_map slug distinct)
    -- The two slugs are looked up alike.
    have alike : find? posts post.slug = find? posts other.slug := by
      simp only [find?, same]
    rw [found post member, found other listed] at alike
    exact Option.some.inj alike
  · intro apart post member
    obtain ⟨before, behind, split⟩ := List.append_of_mem member
    rw [first before post behind split]
    rw [split] at apart
    exact apart_in_front apart

/-- Slugs that differ in more than case, where each post is also named by the other one. -/
theorem accepted_found_mixed :
    let text : Text := r#"[["Go", "go-2", "", "2024-01-05", [], null, ""],
      ["go-2", "Go", "", "2024-01-06", [], null, ""]]"#
    let posts : List Post :=
      [⟨"Go", "go-2", [], "2024-01-05", [], none, []⟩,
        ⟨"go-2", "Go", [], "2024-01-06", [], none, []⟩]
    collectionOfText text = .ok posts ∧ ∀ post ∈ posts, find? posts post.slug = some post := by
  intro text posts
  have accepted : collectionOfText text = .ok posts := by decide +kernel
  exact ⟨accepted, (accepted_found accepted).2.mpr (by decide)⟩

/-- Slugs that differ in case alone are accepted, and the second one leads to the first post. -/
theorem accepted_hidden :
    let text : Text := r#"[["Intro", "Loud", "", "2024-01-01", [], null, ""],
      ["intro", "Quiet", "", "2024-01-02", [], null, ""]]"#
    let loud : Post := ⟨"Intro", "Loud", [], "2024-01-01", [], none, []⟩
    let quiet : Post := ⟨"intro", "Quiet", [], "2024-01-02", [], none, []⟩
    collectionOfText text = .ok [loud, quiet] ∧ find? [loud, quiet] quiet.slug = some loud ∧
      loud ≠ quiet := by
  decide +kernel

end Post

end BlogTerminal
