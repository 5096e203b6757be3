import Mathlib.Data.List.Basic

/-! Searching a topic for a pattern of literals and captured levels, as the regular expressions
`lit([^/]*)lit...` do. A captured level runs up to the next separator; where the pattern goes on
with a separator, as it does after every captured level, no shorter capture can match. -/
namespace Topic

inductive Piece where
  | lit (text : List Char)
  | level
  deriving DecidableEq

/-- The captures of a match at the start of the text. -/
def matchHere : List Piece → List Char → Option (List (List Char))
  | [], _ => some []
  | .lit text :: ps, s =>
    if text.isPrefixOf s then matchHere ps (s.drop text.length) else none
  | .level :: ps, s =>
    (matchHere ps (s.dropWhile (· ≠ '/'))).map (s.takeWhile (· ≠ '/') :: ·)

/-- The captures of the leftmost match. -/
def search (ps : List Piece) : List Char → Option (List (List Char))
  | [] => matchHere ps []
  | c :: s => (matchHere ps (c :: s)).orElse fun _ => search ps s

def render : List Piece → List (List Char) → List Char
  | .lit text :: ps, caps => text ++ render ps caps
  | .level :: ps, c :: caps => c ++ render ps caps
  | _, _ => []

/-- The pattern is over or goes on with a separator. -/
def EndsLevel : List Piece → Prop
  | [] => True
  | .lit ('/' :: _) :: _ => True
  | _ => False

/-- There are as many captures as levels, none with a separator in it, and every level ends where
its capture does. -/
def Fits : List Piece → List (List Char) → Prop
  | [], caps => caps = []
  | .lit _ :: ps, caps => Fits ps caps
  | .level :: _, [] => False
  | .level :: ps, c :: caps => '/' ∉ c ∧ EndsLevel ps ∧ Fits ps caps

private theorem takeWhile_level {c s : List Char} (hc : '/' ∉ c) (hs : s = [] ∨ ∃ t, s = '/' :: t) :
    (c ++ s).takeWhile (· ≠ '/') = c ∧ (c ++ s).dropWhile (· ≠ '/') = s := by
  have hall : ∀ x ∈ c, decide (x ≠ '/') = true := by
    intro x hx
    exact decide_eq_true fun h => hc (h ▸ hx)
  rw [List.takeWhile_append_of_pos hall, List.dropWhile_append_of_pos hall]
  rcases hs with rfl | ⟨t, rfl⟩
  · simp
  · simp

theorem EndsLevel.render {ps : List Piece} (h : EndsLevel ps) (caps : List (List Char)) :
    render ps caps = [] ∨ ∃ t, render ps caps = '/' :: t := by
  unfold EndsLevel at h
  split at h
  · exact .inl rfl
  · exact .inr ⟨_, rfl⟩
  · exact h.elim

/-- The levels filled in match at the start of a text that goes on with another level, or not at all. -/
theorem matchHere_render_append {ps : List Piece} {caps : List (List Char)} (h : Fits ps caps)
    {rest : List Char} (hrest : rest = [] ∨ ∃ t, rest = '/' :: t) :
    matchHere ps (render ps caps ++ rest) = some caps := by
  induction ps generalizing caps with
  | nil =>
    rw [show caps = [] from h]
    rfl
  | cons p ps ih =>
    cases p with
    | lit text =>
      have hpre : text.isPrefixOf (text ++ (render ps caps ++ rest)) = true :=
        List.isPrefixOf_iff_prefix.mpr (List.prefix_append text _)
      simp only [render, matchHere, List.append_assoc, hpre, if_true, List.drop_left]
      exact ih h
    | level =>
      cases caps with
      | nil => exact h.elim
      | cons c caps =>
        obtain ⟨hc, hends, hfits⟩ := h
        have hnext : render ps caps ++ rest = [] ∨ ∃ t, render ps caps ++ rest = '/' :: t := by
          rcases hends.render caps with hnil | ⟨t, ht⟩
          · rw [hnil, List.nil_append]
            exact hrest
          · rw [ht, List.cons_append]
            exact .inr ⟨_, rfl⟩
        obtain ⟨ht, hd⟩ := takeWhile_level hc hnext
        rw [render, matchHere, List.append_assoc, ht, hd, ih hfits]
        rfl

theorem length_of_matchHere {ps : List Piece} {s : List Char} {caps : List (List Char)}
    (h : matchHere ps s = some caps) : caps.length = ps.count .level := by
  induction ps generalizing s caps with
  | nil =>
    cases h
    rfl
  | cons p ps ih =>
    cases p with
    | lit text =>
      rw [matchHere] at h
      split_ifs at h
      rw [ih h, List.count_cons_of_ne (by simp)]
    | level =>
      rw [matchHere] at h
      obtain ⟨caps', hcaps', hcons⟩ := Option.map_eq_some_iff.mp h
      rw [← hcons, List.length_cons, ih hcaps', List.count_cons_self]

theorem length_of_search {ps : List Piece} {s : List Char} {caps : List (List Char)}
    (h : search ps s = some caps) : caps.length = ps.count .level := by
  induction s with
  | nil => exact length_of_matchHere h
  | cons c s ih =>
    rw [search] at h
    cases hm : matchHere ps (c :: s) with
    | none =>
      rw [hm] at h
      exact ih h
    | some caps' =>
      rw [hm] at h
      cases h
      exact length_of_matchHere hm

theorem search_of_matchHere {ps : List Piece} {s : List Char} {caps : List (List Char)}
    (h : matchHere ps s = some caps) : search ps s = some caps := by
  cases s with
  | nil => exact h
  | cons c s =>
    rw [search, h]
    rfl

/-- The levels filled in are found again. -/
theorem search_render {ps : List Piece} {caps : List (List Char)} (h : Fits ps caps) :
    search ps (render ps caps) = some caps := by
  have hm := matchHere_render_append h (.inl rfl)
  rw [List.append_nil] at hm
  exact search_of_matchHere hm

end Topic
