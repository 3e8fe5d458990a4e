import TypeLint.Text.CharClass

/-!
# Text as a list of characters

What is read from left to right (comments, templates, names, patterns) is read as a list of
characters, so that every reader is a recursion on its input. A `String` is turned into characters
once, at the edge of a reader.
-/

namespace TypeLint.Text

/-- The text without the characters at its front that satisfy `p`. -/
def dropFront (p : Char → Bool) (cs : List Char) : List Char := cs.dropWhile p

/-- The text without the characters at its back that satisfy `p`. -/
def dropBack (p : Char → Bool) (cs : List Char) : List Char :=
  (cs.reverse.dropWhile p).reverse

/-- The text without white space at its front. -/
def trimFront (cs : List Char) : List Char := dropFront isBlank cs

/-- The text without white space at either end. -/
def trim (cs : List Char) : List Char := dropBack isBlank (dropFront isBlank cs)

/-- The text neither starts nor ends with white space. -/
structure Bare (cs : List Char) : Prop where
  front : ∀ c, cs.head? = some c → isBlank c = false
  back : ∀ c, cs.getLast? = some c → isBlank c = false

theorem Bare.of_ends {cs : List Char} {a b : Char} (hfront : cs.head? = some a)
    (ha : isBlank a = false) (hback : cs.getLast? = some b) (hb : isBlank b = false) : Bare cs := by
  constructor
  · intro c hc
    rw [hfront] at hc
    cases hc
    exact ha
  · intro c hc
    rw [hback] at hc
    cases hc
    exact hb

/-- What passes in front of a text that starts with something else is dropped, and no more. -/
theorem dropFront_append {p : Char → Bool} {front cs : List Char} (hfront : ∀ c ∈ front, p c = true)
    (hcs : ∀ c, cs.head? = some c → p c = false) : dropFront p (front ++ cs) = cs := by
  rw [dropFront, List.dropWhile_append_of_pos hfront]
  cases cs with
  | nil => rfl
  | cons c cs =>
    have hc : p c = false := hcs c rfl
    rw [List.dropWhile_cons_of_neg (by simp [hc])]

theorem dropBack_append {p : Char → Bool} {back cs : List Char} (hback : ∀ c ∈ back, p c = true)
    (hcs : ∀ c, cs.getLast? = some c → p c = false) : dropBack p (cs ++ back) = cs := by
  have hdrop : dropFront p (back.reverse ++ cs.reverse) = cs.reverse := by
    refine dropFront_append (fun c hc => hback c (List.mem_reverse.1 hc)) fun c hc => hcs c ?_
    rwa [List.head?_reverse] at hc
  rw [dropBack, List.reverse_append]
  rw [dropFront] at hdrop
  rw [hdrop, List.reverse_reverse]

/-- Trimming takes the white space around a bare text away. -/
theorem Bare.trim_between {front cs back : List Char} (h : Bare cs)
    (hfront : ∀ c ∈ front, isBlank c = true) (hback : ∀ c ∈ back, isBlank c = true) :
    trim (front ++ cs ++ back) = cs := by
  rw [trim]
  cases cs with
  | nil =>
    -- only white space: all of it goes at the front
    have hall : ∀ c ∈ front ++ back, isBlank c = true := by
      intro c hc
      rcases List.mem_append.1 hc with hc | hc
      · exact hfront c hc
      · exact hback c hc
    have hdrop : dropFront isBlank (front ++ back ++ []) = [] :=
      dropFront_append hall fun c hc => by cases hc
    rw [List.append_nil] at hdrop ⊢
    rw [hdrop]
    rfl
  | cons d ds =>
    have hstart : ∀ c, ((d :: ds) ++ back).head? = some c → isBlank c = false := h.front
    rw [List.append_assoc, dropFront_append hfront hstart, dropBack_append hback h.back]

theorem Bare.trim_append {front cs : List Char} (h : Bare cs)
    (hfront : ∀ c ∈ front, isBlank c = true) : trim (front ++ cs) = cs := by
  have htrim : trim (front ++ cs ++ []) = cs := h.trim_between hfront fun c hc => by cases hc
  rwa [List.append_nil] at htrim

/-- What follows `lead`, if the text starts with it. -/
def after? : (lead cs : List Char) → Option (List Char)
  | [], cs => some cs
  | _ :: _, [] => none
  | l :: lead, c :: cs => if l = c then after? lead cs else none

theorem after?_append (lead rest : List Char) : after? lead (lead ++ rest) = some rest := by
  induction lead with
  | nil => rfl
  | cons l lead ih => rw [List.cons_append, after?, if_pos rfl, ih]

/-- The text before the first `c` and the text after it, if there is one. -/
def cut? (c : Char) : List Char → Option (List Char × List Char)
  | [] => none
  | d :: ds => if d = c then some ([], ds) else (cut? c ds).map fun (a, b) => (d :: a, b)

/-- A text is cut at the first `c`: in front of it there is none. -/
theorem cut?_append {c : Char} {front : List Char} (h : c ∉ front) (back : List Char) :
    cut? c (front ++ c :: back) = some (front, back) := by
  induction front with
  | nil => simp [cut?]
  | cons d front ih =>
    rw [List.mem_cons, not_or] at h
    rw [List.cons_append, cut?, if_neg (Ne.symm h.1), ih h.2]
    rfl

/-- The parts of the text between the characters `c`; there is always at least one part. -/
def splitAt (c : Char) : List Char → List (List Char)
  | [] => [[]]
  | d :: ds =>
    if d = c then [] :: splitAt c ds
    else
      match splitAt c ds with
      | [] => [[d]]
      | part :: parts => (d :: part) :: parts

theorem splitAt_of_notMem {c : Char} {part : List Char} (h : c ∉ part) : splitAt c part = [part] := by
  induction part with
  | nil => rfl
  | cons d part ih =>
    rw [List.mem_cons, not_or] at h
    rw [splitAt, if_neg (Ne.symm h.1), ih h.2]

/-- The first part ends where the first `c` stands. -/
theorem splitAt_append {c : Char} {part : List Char} (h : c ∉ part) (rest : List Char) :
    splitAt c (part ++ c :: rest) = part :: splitAt c rest := by
  induction part with
  | nil => rw [List.nil_append, splitAt, if_pos rfl]
  | cons d part ih =>
    rw [List.mem_cons, not_or] at h
    rw [List.cons_append, splitAt, if_neg (Ne.symm h.1), ih h.2]

/-- Parts that are joined by `c` and have none are found again. -/
theorem splitAt_intercalate {c : Char} :
    ∀ {parts : List (List Char)}, parts ≠ [] → (∀ part ∈ parts, c ∉ part) →
      splitAt c ([c].intercalate parts) = parts
  | [], hne, _ => absurd rfl hne
  | [part], _, h => by
    rw [List.intercalate_singleton, splitAt_of_notMem (h part List.mem_cons_self)]
  | part :: next :: parts, _, h => by
    rw [List.forall_mem_cons] at h
    rw [List.intercalate_cons_cons, List.append_assoc, List.singleton_append, splitAt_append h.1,
      splitAt_intercalate (List.cons_ne_nil next parts) h.2]

/-- Without every copy of `tail` that stands at the end, one after another. The text is taken
backwards, so `backTail` is `tail` reversed; an empty tail takes nothing. -/
def dropTailsBack (backTail : List Char) : (fuel : Nat) → List Char → List Char
  | 0, cs => cs
  | fuel + 1, cs =>
    match after? backTail cs with
    | some rest => if backTail.isEmpty then cs else dropTailsBack backTail fuel rest
    | none => cs

/-- The text without every copy of `tail` at its end, one after another. -/
def dropTails (tail cs : List Char) : List Char :=
  (dropTailsBack tail.reverse cs.length cs.reverse).reverse

theorem dropTailsBack_of_head? {l : Char} {backTail cs : List Char} (h : cs.head? ≠ some l)
    (fuel : Nat) : dropTailsBack (l :: backTail) fuel cs = cs := by
  cases fuel with
  | zero => rfl
  | succ fuel =>
    have hafter : after? (l :: backTail) cs = none := by
      cases cs with
      | nil => rfl
      | cons c cs =>
        have hne : l ≠ c := fun heq => h (by rw [heq, List.head?_cons])
        rw [after?, if_neg hne]
    rw [dropTailsBack, hafter]

/-- A text that ends with another character than `tail` loses nothing. -/
theorem dropTails_of_getLast? {front cs : List Char} {l : Char} (h : cs.getLast? ≠ some l) :
    dropTails (front ++ [l]) cs = cs := by
  rw [dropTails, List.reverse_append, List.reverse_singleton, List.singleton_append,
    dropTailsBack_of_head? (by rwa [List.head?_reverse]), List.reverse_reverse]

/-- Behind such a text one copy of `tail` is dropped. -/
theorem dropTails_append {front cs : List Char} {l : Char} (h : cs.getLast? ≠ some l) :
    dropTails (front ++ [l]) (cs ++ (front ++ [l])) = cs := by
  have hreverse : (cs ++ (front ++ [l])).reverse = l :: front.reverse ++ cs.reverse := by simp
  have hlength : (cs ++ (front ++ [l])).length = (cs ++ front).length + 1 := by
    rw [← List.append_assoc, List.length_append, List.length_singleton]
  have htail : (front ++ [l]).reverse = l :: front.reverse := List.reverse_concat
  rw [dropTails, hreverse, hlength, htail, dropTailsBack, after?_append]
  show (dropTailsBack (l :: front.reverse) (cs ++ front).length cs.reverse).reverse = cs
  rw [dropTailsBack_of_head? (by rwa [List.head?_reverse]), List.reverse_reverse]

/-- The text with the capital letters of ASCII made small. -/
def lowerAscii (s : String) : String := s.map Char.toLower

/-- The text with the small letters of ASCII made capital. -/
def upperAscii (s : String) : String := s.map Char.toUpper

/-- Two texts are equal when the case of ASCII letters does not count. -/
def eqIgnoringCase (s t : String) : Bool := lowerAscii s == lowerAscii t

/-- `s` ends with `tail`. -/
def endsWith (s tail : String) : Bool := tail.toList.isSuffixOf s.toList

/-- `s` starts with `lead`. -/
def startsWith (s lead : String) : Bool := lead.toList.isPrefixOf s.toList

end TypeLint.Text
