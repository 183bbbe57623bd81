import BlogTerminal.Text.Lowercase
import Mathlib.Data.List.Infix
import Mathlib.Data.List.TakeWhile

/-!
The lowercase of a text is its own lowercase. Every character of a lowercase text is settled: it is
its own lowercase wherever it stands, since the runs of the table end outside of all runs, and no
capital sigma is left whose lowercase depends on its neighbours.
-/

namespace BlogTerminal.Text

section

/-! ## Runs of letters -/

/-- The run takes the code point `n` to another one. -/
def LetterRun.Moves (run : LetterRun) (n : Nat) : Prop :=
  run.first ≤ n ∧ n ≤ run.last ∧ (n - run.first) % run.step = 0

variable {run other : LetterRun} {n : Nat}

/-- A code point stays, or some run moves it. -/
theorem mapLetter_cases (runs : List LetterRun) (n : Nat) :
    mapLetter runs n = n ∨
      ∃ run ∈ runs, run.Moves n ∧ mapLetter runs n = run.image + (n - run.first) := by
  induction runs with
  | nil => exact .inl rfl
  | cons run rest ih =>
    rw [mapLetter]
    by_cases before : n < run.first
    · exact .inl (if_pos before)
    · rw [if_neg before]
      by_cases inside : (n ≤ run.last && (n - run.first) % run.step == 0) = true
      · rw [if_pos inside]
        simp only [Bool.and_eq_true, decide_eq_true_eq, beq_iff_eq] at inside
        exact .inr ⟨run, .head _, ⟨Nat.le_of_not_lt before, inside.1, inside.2⟩, rfl⟩
      · rw [if_neg inside]
        exact ih.imp_right fun ⟨other, member, moved⟩ => ⟨other, .tail _ member, moved⟩

/-- The images of `run` and the code points of `other` have different parities. -/
def LetterRun.turns (run other : LetterRun) : Bool :=
  (run.step.beq 2 || run.first.beq run.last) && other.step.beq 2 &&
    ((run.image + other.first) % 2).beq 1

/-- None of the runs moves an image of `run`: each one ends before the images, or takes turns with
them, up to the first one that starts behind them. -/
def LetterRun.passes (run : LetterRun) : List LetterRun → Bool
  | [] => true
  | other :: rest =>
    bif other.last.blt run.image then run.passes rest
    else (run.image + (run.last - run.first)).blt other.first ||
      (run.turns other && run.passes rest)

private theorem LetterRun.turns_unmoved (turns : run.turns other = true) (moves : run.Moves n) :
    ¬ other.Moves (run.image + (n - run.first)) := by
  obtain ⟨low, high, step⟩ := moves
  rintro ⟨above, _, distance⟩
  simp only [LetterRun.turns, Bool.or_eq_true, Bool.and_eq_true, Nat.beq_eq] at turns
  obtain ⟨⟨double | single, turn⟩, parity⟩ := turns
  · rw [double] at step
    rw [turn] at distance
    omega
  · rw [turn] at distance
    omega

private theorem mapLetter_unmoved (rest : List LetterRun) (unmoved : ¬ run.Moves n)
    (above : ¬ n < run.first) : mapLetter (run :: rest) n = mapLetter rest n := by
  have outside : ¬ (n ≤ run.last && (n - run.first) % run.step == 0) = true := by
    simp only [Bool.and_eq_true, decide_eq_true_eq, beq_iff_eq]
    exact fun ⟨within, step⟩ => unmoved ⟨Nat.le_of_not_lt above, within, step⟩
  rw [mapLetter, if_neg above, if_neg outside]

private theorem mapLetter_image {runs : List LetterRun} (passes : run.passes runs = true)
    (moves : run.Moves n) :
    mapLetter runs (run.image + (n - run.first)) = run.image + (n - run.first) := by
  induction runs with
  | nil => rfl
  | cons other rest ih =>
    -- The look-up stops as well at a run that starts behind the code point.
    by_cases before : run.image + (n - run.first) < other.first
    · rw [mapLetter, if_pos before]
    · rw [LetterRun.passes] at passes
      cases behind : other.last.blt run.image with
      | true =>
        rw [behind, cond_true] at passes
        have unmoved : ¬ other.Moves (run.image + (n - run.first)) := by
          rintro ⟨_, within, _⟩
          rw [Nat.blt_eq] at behind
          omega
        rw [mapLetter_unmoved rest unmoved before, ih passes]
      | false =>
        simp only [behind, cond_false, Bool.or_eq_true, Bool.and_eq_true, Nat.blt_eq] at passes
        rcases passes with ahead | ⟨turns, passes⟩
        · have := moves.2.1
          omega
        · rw [mapLetter_unmoved rest (LetterRun.turns_unmoved turns moves) before, ih passes]

/-! ## Letters -/

variable {c : Char}

/-- The character is its own lowercase, whatever stands around it. -/
structure Settled (c : Char) : Prop where
  sigma : c ≠ 'Σ'
  dotted : c ≠ 'İ'
  letter : lowerChar c = c

instance : Decidable (Settled c) :=
  decidable_of_iff (c ≠ 'Σ' ∧ c ≠ 'İ' ∧ lowerChar c = c)
    ⟨fun ⟨sigma, dotted, letter⟩ => ⟨sigma, dotted, letter⟩,
      fun ⟨sigma, dotted, letter⟩ => ⟨sigma, dotted, letter⟩⟩

/-- The lowercase letters are no capitals of the table. -/
private theorem images_pass :
    (lowercaseRuns.all fun run => run.passes lowercaseRuns) = true := by
  decide +kernel

/-- The lowercase letters are characters, and none of them is `İ`. -/
private theorem images_valid : ∀ run ∈ lowercaseRuns,
    (run.image + (run.last - run.first) < 0x130 ∨ 0x130 < run.image) ∧
      (run.image + (run.last - run.first) < 0xD800 ∨
        0xE000 ≤ run.image ∧ run.image + (run.last - run.first) < 0x110000) := by
  decide +kernel

/-- A character is its own lowercase letter, or some run of the table moves it. -/
theorem lowerChar_cases (c : Char) : lowerChar c = c ∨
    ∃ run ∈ lowercaseRuns, run.Moves c.toNat ∧
      (lowerChar c).toNat = run.image + (c.toNat - run.first) := by
  rcases mapLetter_cases lowercaseRuns c.toNat with kept | ⟨run, member, moves, moved⟩
  · exact .inl (by rw [lowerChar, kept, Char.ofNat_toNat])
  · refine .inr ⟨run, member, moves, ?_⟩
    have valid := (images_valid run member).2
    obtain ⟨low, high, _⟩ := moves
    have isChar : (run.image + (c.toNat - run.first)).isValidChar := by
      unfold Nat.isValidChar
      omega
    rw [lowerChar, moved, Char.ofNat, dif_pos isChar]
    rfl

private theorem lowerChar_settled (sigma : c ≠ 'Σ') (dotted : c ≠ 'İ') : Settled (lowerChar c) := by
  rcases lowerChar_cases c with same | ⟨run, member, moves, code⟩
  · exact ⟨by rwa [same], by rwa [same], by rw [same, same]⟩
  · have stays : mapLetter lowercaseRuns (run.image + (c.toNat - run.first)) =
        run.image + (c.toNat - run.first) :=
      mapLetter_image (List.all_eq_true.mp images_pass run member) moves
    have undotted := (images_valid run member).1
    obtain ⟨low, high, _⟩ := moves
    have letter : lowerChar (lowerChar c) = lowerChar c := by
      rw [lowerChar, code, stays, ← code, Char.ofNat_toNat]
    refine ⟨fun same => ?_, fun same => ?_, letter⟩
    · rw [same] at letter
      exact absurd letter (by decide)
    · rw [same] at code
      have point : 'İ'.toNat = 0x130 := rfl
      omega

/-! ## Texts -/

variable {text : Text}

private theorem lowerBetween_settled {before behind : Text} :
    ∀ d ∈ lowerBetween before c behind, Settled d := by
  unfold lowerBetween
  split
  · have final : Settled 'ς' := by decide
    have medial : Settled 'σ' := by decide
    split <;> simpa
  · split
    · have letter : Settled 'i' := by decide
      have dot : Settled '\u0307' := by decide
      simp [letter, dot]
    · rename_i sigma dotted
      intro d member
      rw [List.mem_singleton.mp member]
      exact lowerChar_settled sigma dotted

private theorem lowerBetween_of_settled (settled : Settled c) (before behind : Text) :
    lowerBetween before c behind = [c] := by
  rw [lowerBetween, if_neg settled.sigma, if_neg settled.dotted, settled.letter]

/-- Every character of a lowercase text is settled. -/
theorem lower_settled : ∀ c ∈ lower text, Settled c := by
  have from_front : ∀ before : Text, ∀ c ∈ lowerFrom before text, Settled c := by
    induction text with
    | nil => exact fun _ _ member => absurd member List.not_mem_nil
    | cons head rest ih =>
      intro before c member
      rcases List.mem_append.mp member with here | later
      · exact lowerBetween_settled c here
      · exact ih (head :: before) c later
  exact from_front []

/-- A text of settled characters is its own lowercase. -/
theorem lower_of_settled (settled : ∀ c ∈ text, Settled c) : lower text = text := by
  have from_front : ∀ before : Text, lowerFrom before text = text := by
    induction text with
    | nil => exact fun _ => rfl
    | cons head rest ih =>
      intro before
      have later := ih (fun c member => settled c (.tail _ member)) (head :: before)
      rw [lowerFrom, lowerBetween_of_settled (settled head (.head _)), later, List.singleton_append]
  exact from_front []

/-- A settled character is not lost. -/
theorem mem_lower (settled : Settled c) (member : c ∈ text) : c ∈ lower text := by
  have from_front : ∀ before : Text, c ∈ lowerFrom before text := by
    induction text with
    | nil => exact absurd member List.not_mem_nil
    | cons head rest ih =>
      intro before
      rcases List.mem_cons.mp member with rfl | behind
      · rw [lowerFrom, lowerBetween_of_settled settled]
        exact .head _
      · exact List.mem_append_right _ (ih behind (head :: before))
  exact from_front []

/-- The lowercase of a text is its own lowercase. -/
theorem lower_lower (text : Text) : lower (lower text) = lower text :=
  lower_of_settled lower_settled

/-! ## The case of ASCII letters -/

/-- The characters have one lowercase, and a word goes on across both of them or across neither. -/
structure Alike (c d : Char) : Prop where
  cased : isCased c = isCased d
  mark : isCaseIgnorable c = isCaseIgnorable d
  letter : lowerChar c = lowerChar d
  sigma : c = 'Σ' ↔ d = 'Σ'
  dotted : c = 'İ' ↔ d = 'İ'

private theorem ascii_alike : ∀ n < 128,
    let c := Char.ofNat n
    isCased c.toLower = isCased c ∧ isCaseIgnorable c.toLower = isCaseIgnorable c ∧
      lowerChar c.toLower = lowerChar c ∧ (c.toLower = 'Σ' ↔ c = 'Σ') ∧
        (c.toLower = 'İ' ↔ c = 'İ') := by
  decide +kernel

/-- Beyond ASCII, characters have no ASCII lowercase. -/
theorem toLower_kept (high : ¬ c.toNat < 128) : c.toLower = c := by
  unfold Char.toLower
  refine dif_neg fun capital => high ?_
  exact Nat.lt_of_le_of_lt (UInt32.le_iff_toNat_le.mp capital.2) (by decide)

private theorem toLower_alike (c : Char) : Alike c.toLower c := by
  by_cases ascii : c.toNat < 128
  · obtain ⟨cased, mark, letter, sigma, dotted⟩ := ascii_alike c.toNat ascii
    rw [Char.ofNat_toNat] at cased mark letter sigma dotted
    exact ⟨cased, mark, letter, sigma, dotted⟩
  · rw [toLower_kept ascii]
    exact ⟨rfl, rfl, rfl, .rfl, .rfl⟩

private theorem startsCased_map_toLower (text : Text) :
    startsCased (text.map Char.toLower) = startsCased text := by
  induction text with
  | nil => rfl
  | cons c rest ih =>
    have alike := toLower_alike c
    rw [startsCased, List.map_cons, List.dropWhile_cons, alike.mark, startsCased,
      List.dropWhile_cons]
    cases isCaseIgnorable c with
    | true => exact ih
    | false => exact alike.cased

/-- The case of ASCII letters makes no difference to a lowercase text. -/
theorem lower_map_toLower (text : Text) : lower (text.map Char.toLower) = lower text := by
  have from_front : ∀ before : Text,
      lowerFrom (before.map Char.toLower) (text.map Char.toLower) = lowerFrom before text := by
    induction text with
    | nil => exact fun _ => rfl
    | cons c rest ih =>
      intro before
      have alike := toLower_alike c
      have here : lowerBetween (before.map Char.toLower) c.toLower (rest.map Char.toLower) =
          lowerBetween before c rest := by
        simp [lowerBetween, endsWord, startsCased_map_toLower, alike.sigma, alike.dotted,
          alike.letter]
      have later := ih (c :: before)
      rw [List.map_cons, lowerFrom, lowerFrom, here]
      exact congrArg (lowerBetween before c rest ++ ·) later
  exact from_front []

/-- Texts that differ only in the case of ASCII letters have one lowercase. -/
theorem lower_congr {other : Text} (letters : text.map Char.toLower = other.map Char.toLower) :
    lower text = lower other := by
  rw [← lower_map_toLower text, letters, lower_map_toLower]

/-! ## ASCII texts -/

/-- All characters of the text are ASCII. -/
def IsAscii (text : Text) : Prop := ∀ c ∈ text, c.toNat < 128

instance (text : Text) : Decidable (IsAscii text) :=
  decidable_of_iff (text.all (·.toNat < 128) = true) (by simp [IsAscii])

private theorem ascii_folded : ∀ n < 128,
    let c := Char.ofNat n
    c ≠ 'Σ' ∧ c ≠ 'İ' ∧ lowerChar c = foldChar c := by
  decide +kernel

/-- In an ASCII text lowercase goes letter by letter, as case folding does. -/
theorem lower_ascii (ascii : IsAscii text) : lower text = text.map foldChar := by
  have from_front : ∀ before : Text, lowerFrom before text = text.map foldChar := by
    induction text with
    | nil => exact fun _ => rfl
    | cons c rest ih =>
      intro before
      obtain ⟨first, others⟩ := List.forall_mem_cons.mp ascii
      obtain ⟨sigma, dotted, letter⟩ := ascii_folded c.toNat first
      rw [Char.ofNat_toNat] at sigma dotted letter
      have here : lowerBetween before c rest = [foldChar c] := by
        rw [lowerBetween, if_neg sigma, if_neg dotted, letter]
      rw [lowerFrom, here, ih others (c :: before), List.map_cons, List.singleton_append]
  exact from_front []

end

/-! ## Parts of a text

Only a capital sigma is written in small letters by what stands around it, so a part keeps its
lowercase inside of every longer text exactly when each of its capital sigmas is settled by the part
alone.
-/

section

variable {before behind text : Text}

/-! ### Letters and marks -/

/-- The text holds nothing but marks, which neither start nor end a word. -/
def Marks (text : Text) : Prop := ∀ c ∈ text, isCaseIgnorable c = true

private theorem sigma_letter : isCaseIgnorable 'Σ' = false := by decide

private theorem Marks.no_sigma (marks : Marks text) : 'Σ' ∉ text := by
  intro member
  have mark := marks 'Σ' member
  rw [sigma_letter] at mark
  cases mark

private theorem Marks.startsCased_append (marks : Marks text) (rest : Text) :
    startsCased (text ++ rest) = startsCased rest := by
  rw [startsCased, List.dropWhile_append_of_pos marks, startsCased]

/-- Marks alone do not begin with a cased letter. -/
theorem Marks.startsCased (marks : Marks text) : startsCased text = false := by
  rw [Text.startsCased, List.dropWhile_eq_nil_iff.mpr marks]
  rfl

/-- What stands behind a character that is no mark does not matter. -/
theorem startsCased_append (given : ¬ Marks text) (rest : Text) :
    startsCased (text ++ rest) = startsCased text := by
  have first : text.dropWhile isCaseIgnorable ≠ [] := mt List.dropWhile_eq_nil_iff.mp given
  obtain ⟨c, more, split⟩ := List.exists_cons_of_ne_nil first
  simp [startsCased, List.dropWhile_append, split]

/-- A capital sigma is a letter, so what stands behind it does not matter. -/
theorem startsCased_sigma (text rest other : Text) :
    startsCased (text ++ 'Σ' :: rest) = startsCased (text ++ 'Σ' :: other) := by
  have letter : ¬ Marks (text ++ ['Σ']) := fun marks => marks.no_sigma (by simp)
  have shape (more : Text) : text ++ 'Σ' :: more = (text ++ ['Σ']) ++ more := by simp
  rw [shape rest, shape other, startsCased_append letter, startsCased_append letter]

/-! ### Lowercase inside of a longer text -/

/-- The lowercase of `text` between the text `before` it, written backwards, and the text `behind`
it. -/
def lowerAmid : (before text behind : Text) → Text
  | _, [], _ => []
  | before, c :: rest, behind =>
    lowerBetween before c (rest ++ behind) ++ lowerAmid (c :: before) rest behind

@[simp] theorem lowerAmid_nil (before behind : Text) : lowerAmid before [] behind = [] := rfl

private theorem lowerFrom_append (before text behind : Text) :
    lowerFrom before (text ++ behind) =
      lowerAmid before text behind ++ lowerFrom (text.reverse ++ before) behind := by
  induction text generalizing before with
  | nil => rfl
  | cons c rest ih =>
    have later := ih (c :: before)
    simp only [List.cons_append, lowerFrom, lowerAmid, later, List.reverse_cons, List.append_assoc,
      List.nil_append]

private theorem lowerAmid_append (before first rest behind : Text) :
    lowerAmid before (first ++ rest) behind =
      lowerAmid before first (rest ++ behind) ++
        lowerAmid (first.reverse ++ before) rest behind := by
  induction first generalizing before with
  | nil => rfl
  | cons c more ih =>
    have later := ih (c :: before)
    simp only [List.cons_append, lowerAmid, later, List.reverse_cons, List.append_assoc,
      List.nil_append]

private theorem lower_eq_amid (text : Text) : lower text = lowerAmid [] text [] := by
  have whole := lowerFrom_append [] text []
  rw [List.append_nil, lowerFrom, List.append_nil] at whole
  exact whole

/-- The lowercase of a text that is put together from three parts. -/
theorem lower_parts (before text behind : Text) :
    lower (before ++ text ++ behind) =
      lowerAmid [] before (text ++ behind) ++ lowerAmid before.reverse text behind ++
        lowerAmid (text.reverse ++ before.reverse) behind [] := by
  rw [lower_eq_amid, lowerAmid_append, lowerAmid_append, List.reverse_append]
  simp only [List.append_nil]

/-- The lowercase of a text depends on the texts around it only by its capital sigmas. -/
theorem lowerAmid_congr {before' behind' : Text}
    (same : ∀ first rest, text = first ++ 'Σ' :: rest →
      endsWord (first.reverse ++ before) (rest ++ behind) =
        endsWord (first.reverse ++ before') (rest ++ behind')) :
    lowerAmid before text behind = lowerAmid before' text behind' := by
  induction text generalizing before before' with
  | nil => rfl
  | cons c rest ih =>
    have here : lowerBetween before c (rest ++ behind) =
        lowerBetween before' c (rest ++ behind') := by
      unfold lowerBetween
      by_cases sigma : c = 'Σ'
      · have alike : endsWord before (rest ++ behind) = endsWord before' (rest ++ behind') :=
          same [] rest (by rw [sigma, List.nil_append])
        rw [if_pos sigma, if_pos sigma, alike]
      · rw [if_neg sigma, if_neg sigma]
    have later : lowerAmid (c :: before) rest behind = lowerAmid (c :: before') rest behind' := by
      apply ih
      intro first more split
      have alike := same (c :: first) more (by rw [split, List.cons_append])
      simpa using alike
    rw [lowerAmid, lowerAmid, here, later]

private theorem lowerAmid_no_sigma {before' behind' : Text} (none : 'Σ' ∉ text) :
    lowerAmid before text behind = lowerAmid before' text behind' := by
  apply lowerAmid_congr
  intro first rest split
  exact absurd (by simp [split]) none

/-! ### Settled sigmas -/

/-- A capital sigma behind the text `before`, which is written backwards, and in front of the text
`behind` could end a word or not, depending on what stands around both: a letter in front of them
would let it end a word, or a letter behind them would keep it from ending one. -/
inductive Wavers (before behind : Text) : Prop where
  | opening (marks : Marks before) (last : startsCased behind = false)
  | closing (letter : startsCased before = true) (marks : Marks behind)

/-- Each capital sigma of the text is settled by the text alone. -/
def Steady (text : Text) : Prop :=
  ∀ before behind, text = before ++ 'Σ' :: behind → ¬ Wavers before.reverse behind

private theorem endsWord_steady (steady : ¬ Wavers before behind) (front rest : Text) :
    endsWord (before ++ front) (behind ++ rest) = endsWord before behind := by
  by_cases marks : Marks behind
  · have given : ¬ Marks before := fun bare => steady (.opening bare marks.startsCased)
    have letter : startsCased before = false := by
      simpa using fun letter => steady (.closing letter marks)
    simp only [endsWord, startsCased_append given, letter, Bool.false_and]
  · rw [endsWord, endsWord, startsCased_append marks]
    cases last : startsCased behind with
    | true => simp only [Bool.not_true, Bool.and_false]
    | false =>
      have given : ¬ Marks before := fun bare => steady (.opening bare last)
      rw [startsCased_append given]

private theorem lowerAmid_steady (steady : Steady text) (before behind : Text) :
    lowerAmid before text behind = lower text := by
  rw [lower_eq_amid]
  apply lowerAmid_congr
  intro first rest split
  rw [endsWord_steady (steady first rest split), List.append_nil, List.append_nil]

/-- A steady part keeps its lowercase inside of the whole. -/
theorem lower_infix {whole : Text} (steady : Steady text) (inside : text <:+: whole) :
    lower text <:+: lower whole := by
  obtain ⟨before, behind, rfl⟩ := inside
  rw [lower_parts, lowerAmid_steady steady]
  exact List.infix_append _ _ _

/-! ### Sigmas that waver -/

/-- A part in which one character differs is not found, when nothing around it makes up for it. -/
private theorem not_infix_of_count {s other : Char} {front back outside rest : Text}
    (differ : other ≠ s) (ahead : s ∉ outside) (later : s ∉ rest) :
    ¬ front ++ [s] ++ back <:+: outside ++ (front ++ [other] ++ back) ++ rest := by
  intro found
  have fewer := found.sublist.count_le s
  simp only [List.count_append, List.count_singleton_self, List.count_eq_zero_of_not_mem ahead,
    List.count_eq_zero_of_not_mem later, List.count_singleton, beq_iff_eq, differ,
    if_false] at fewer
  omega

/-- The lowercase of a text around one of its capital sigmas. -/
private theorem lowerAmid_sigma (outer before behind rest : Text) :
    lowerAmid outer (before ++ 'Σ' :: behind) rest =
      lowerAmid outer before ('Σ' :: behind ++ rest) ++
        [if endsWord (before.reverse ++ outer) (behind ++ rest) then 'ς' else 'σ'] ++
          lowerAmid ('Σ' :: before.reverse ++ outer) behind rest := by
  rw [lowerAmid_append, lowerAmid, lowerBetween, if_pos rfl, List.append_assoc]
  rfl

/-- Another letter has one lowercase, wherever it stands. -/
private theorem lowerAmid_alpha (before behind : Text) : lowerAmid before ['Α'] behind = ['α'] := by
  have letter : lowerChar 'Α' = 'α' := by decide
  rw [lowerAmid, lowerBetween, if_neg (by decide), if_neg (by decide), letter]
  rfl

/-- A letter in front lets the sigma end a word. -/
private theorem opening_lost (marks : Marks before.reverse) (last : startsCased behind = false) :
    ¬ lower (before ++ 'Σ' :: behind) <:+: lower ('Α' :: (before ++ 'Σ' :: behind)) := by
  have letter : startsCased ['Α'] = true := by decide
  have alone : endsWord before.reverse behind = false := by
    rw [endsWord, marks.startsCased, Bool.false_and]
  have inside : endsWord (before.reverse ++ ['Α']) behind = true := by
    rw [endsWord, marks.startsCased_append, letter, last]
    rfl
  have none : 'Σ' ∉ before := by simpa using marks.no_sigma
  have front : lowerAmid ['Α'] before ('Σ' :: behind) = lowerAmid [] before ('Σ' :: behind) :=
    lowerAmid_no_sigma none
  have back : lowerAmid ('Σ' :: before.reverse ++ ['Α']) behind [] =
      lowerAmid ('Σ' :: before.reverse) behind [] := by
    apply lowerAmid_congr
    intro first more _
    have same := startsCased_sigma first.reverse (before.reverse ++ ['Α']) before.reverse
    simp only [List.cons_append, endsWord, same]
  have short : lower (before ++ 'Σ' :: behind) = lowerAmid [] before ('Σ' :: behind) ++ ['σ'] ++
      lowerAmid ('Σ' :: before.reverse) behind [] := by
    rw [lower_eq_amid, lowerAmid_sigma]
    simp [alone]
  have long : lower ('Α' :: (before ++ 'Σ' :: behind)) = ['α'] ++
      (lowerAmid [] before ('Σ' :: behind) ++ ['ς'] ++
        lowerAmid ('Σ' :: before.reverse) behind []) ++ [] := by
    have parts := lower_parts ['Α'] (before ++ 'Σ' :: behind) []
    rw [lowerAmid_alpha, lowerAmid_nil, List.reverse_singleton, lowerAmid_sigma] at parts
    simp only [List.append_nil, inside, front, back] at parts ⊢
    exact parts
  rw [short, long]
  exact not_infix_of_count (by decide) (by decide) (by decide)

/-- A letter behind keeps the sigma from ending a word. -/
private theorem closing_lost (letter : startsCased before.reverse = true) (marks : Marks behind) :
    ¬ lower (before ++ 'Σ' :: behind) <:+: lower (before ++ 'Σ' :: behind ++ ['Α']) := by
  have follows : startsCased ['Α'] = true := by decide
  have alone : endsWord before.reverse behind = true := by
    rw [endsWord, letter, marks.startsCased]
    rfl
  have inside : endsWord before.reverse (behind ++ ['Α']) = false := by
    rw [endsWord, marks.startsCased_append, follows, Bool.not_true, Bool.and_false]
  have back : lowerAmid ('Σ' :: before.reverse) behind ['Α'] =
      lowerAmid ('Σ' :: before.reverse) behind [] := lowerAmid_no_sigma marks.no_sigma
  have front : lowerAmid [] before ('Σ' :: behind ++ ['Α']) =
      lowerAmid [] before ('Σ' :: behind) := by
    apply lowerAmid_congr
    intro first more _
    have same := startsCased_sigma more (behind ++ ['Α']) behind
    simp only [List.cons_append, endsWord, same]
  have short : lower (before ++ 'Σ' :: behind) = lowerAmid [] before ('Σ' :: behind) ++ ['ς'] ++
      lowerAmid ('Σ' :: before.reverse) behind [] := by
    rw [lower_eq_amid, lowerAmid_sigma]
    simp [alone]
  have long : lower (before ++ 'Σ' :: behind ++ ['Α']) = [] ++
      (lowerAmid [] before ('Σ' :: behind) ++ ['σ'] ++
        lowerAmid ('Σ' :: before.reverse) behind []) ++ ['α'] := by
    have parts := lower_parts [] (before ++ 'Σ' :: behind) ['Α']
    rw [lowerAmid_alpha, lowerAmid_nil, List.reverse_nil, lowerAmid_sigma] at parts
    simp only [List.nil_append, List.append_nil, inside, front, back] at parts ⊢
    exact parts
  rw [short, long]
  exact not_infix_of_count (by decide) (by decide) (by decide)

/-- A text keeps its lowercase inside of every longer text exactly when it is steady. -/
theorem steady_iff : Steady text ↔ ∀ whole, text <:+: whole → lower text <:+: lower whole := by
  constructor
  · exact fun steady whole inside => lower_infix steady inside
  · rintro kept before behind rfl wavers
    cases wavers with
    | opening marks last =>
      exact opening_lost marks last (kept _ (List.suffix_cons _ _).isInfix)
    | closing letter marks =>
      exact closing_lost letter marks (kept _ (List.prefix_append _ _).isInfix)

end

/-! ## Breaks

A break belongs to no word, so a capital sigma on one side of it takes no notice of the other side,
and what stands before and behind the break goes into lowercase by itself.
-/

section

/-- The character is no part of a word, and it is its own lowercase. -/
structure IsBreak (c : Char) : Prop where
  settled : Settled c
  letter : isCased c = false
  mark : isCaseIgnorable c = false

instance (c : Char) : Decidable (IsBreak c) :=
  decidable_of_iff (Settled c ∧ isCased c = false ∧ isCaseIgnorable c = false)
    ⟨fun ⟨settled, letter, mark⟩ => ⟨settled, letter, mark⟩,
      fun ⟨settled, letter, mark⟩ => ⟨settled, letter, mark⟩⟩

variable {c : Char} {typed word : Text}

/-- No letter is found across a break. -/
theorem startsCased_break (breaks : IsBreak c) (text rest : Text) :
    startsCased (text ++ c :: rest) = startsCased text := by
  by_cases marks : Marks text
  · have ahead : startsCased (c :: rest) = false := by
      simp [startsCased, breaks.mark, breaks.letter]
    rw [marks.startsCased_append, marks.startsCased, ahead]
  · exact startsCased_append marks _

/-- Around a break both sides go into lowercase by themselves. -/
theorem lower_around (breaks : IsBreak c) (first rest : Text) :
    lower (first ++ c :: rest) = lower first ++ c :: lower rest := by
  have front : lowerAmid [] first (c :: rest) = lower first := by
    rw [lower_eq_amid]
    apply lowerAmid_congr
    intro before behind _
    simp only [endsWord, startsCased_break breaks, List.append_nil]
  have middle : lowerAmid first.reverse [c] rest = [c] := by
    rw [lowerAmid, lowerBetween_of_settled breaks.settled, lowerAmid_nil, List.append_nil]
  have back : lowerAmid (c :: first.reverse) rest [] = lower rest := by
    rw [lower_eq_amid]
    apply lowerAmid_congr
    intro before behind _
    simp only [endsWord, startsCased_break breaks, List.append_nil]
  calc lower (first ++ c :: rest)
    _ = lower (first ++ [c] ++ rest) := by rw [List.append_cons]
    _ = lowerAmid [] first (c :: rest) ++ lowerAmid first.reverse [c] rest ++
        lowerAmid (c :: first.reverse) rest [] := lower_parts first [c] rest
    _ = lower first ++ c :: lower rest := by rw [front, middle, back, ← List.append_cons]

/-- What continues a text behind a break continues the text with what stands before the break. -/
theorem lower_prefix_around (breaks : IsBreak c) (first : Text)
    (continues : lower typed <+: lower word) :
    lower (first ++ c :: typed) <+: lower (first ++ c :: word) := by
  rw [lower_around breaks, lower_around breaks, List.prefix_append_right_inj,
    List.cons_prefix_cons]
  exact ⟨rfl, continues⟩

end

end BlogTerminal.Text
