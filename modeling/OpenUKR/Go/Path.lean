import OpenUKR.Go.Result

/-!
# `strings` and `path/filepath` on Unix

`filepath.Clean` is Go's lexical normalisation: split the path at `/`, drop empty and `.`
elements, let `..` remove the element before it, drop a `..` at the root of an absolute path
and keep one that begins a relative path. The stack machine below computes the same result as
Go's single pass over the bytes; the stack holds the kept elements, the last one first.
-/

namespace OpenUKR

namespace Strings

/-- `strings.HasPrefix(s, prefix)`. -/
def hasPrefix (s pre : String) : Bool := pre.toList.isPrefixOf s.toList

/-- `strings.Contains(s, substr)`. -/
def contains (s substr : String) : Bool := s.toList.tails.any (substr.toList.isPrefixOf ·)

theorem contains_iff_infix (s substr : String) :
    contains s substr = true ↔ substr.toList <:+: s.toList := by
  simp only [contains, List.any_eq_true, List.isPrefixOf_iff_prefix, List.mem_tails,
    List.infix_iff_prefix_suffix]
  exact ⟨fun ⟨t, ht, hp⟩ => ⟨t, hp, ht⟩, fun ⟨t, hp, ht⟩ => ⟨t, ht, hp⟩⟩

end Strings

namespace Filepath

/-- A path element. -/
abbrev Elem := List Char

/-- The elements between the slashes of a path, empty ones included. -/
def splitSlash : List Char → List Elem
  | [] => [[]]
  | c :: cs =>
    if c = '/' then [] :: splitSlash cs
    else
      match splitSlash cs with
      | [] => [[c]]
      | e :: es => (c :: e) :: es

/-- Elements joined with `/`. -/
def joinElems : List Elem → List Char
  | [] => []
  | [e] => e
  | e :: es => e ++ '/' :: joinElems es

/-- One element of `Clean`'s pass, the stack's top at its head. -/
def cleanStep (rooted : Bool) (stack : List Elem) (e : Elem) : List Elem :=
  if e = [] ∨ e = ['.'] then stack
  else if e = ['.', '.'] then
    match stack with
    | [] => if rooted then [] else [['.', '.']]
    | top :: rest => if top = ['.', '.'] then e :: stack else rest
  else e :: stack

/-- `filepath.Clean(path)`. -/
def clean (path : String) : String :=
  let rooted := path.toList.head? = some '/'
  let body := joinElems ((splitSlash path.toList).foldl (cleanStep rooted) []).reverse
  if rooted then String.mk ('/' :: body)
  else if body = [] then "."
  else String.mk body

/-- `filepath.IsAbs(path)`. -/
def isAbs (path : String) : Bool := Strings.hasPrefix path "/"

/-- `filepath.Join(a, b)`: leading empty elements are skipped, the rest joined and cleaned. -/
def join (a b : String) : String :=
  if a ≠ "" then clean (a ++ "/" ++ b)
  else if b ≠ "" then clean b
  else ""

example : clean "/var/keys/../pub//./" = "/var/pub" := by decide
example : clean "/../etc" = "/etc" := by decide
example : clean "a/../../b" = "../b" := by decide
example : clean "" = "." := by decide

/-- `filepath.Dir(path)`: the path up to its last `/`, cleaned. The publisher does not call it;
it says which directory a file is in. -/
def dir (path : String) : String :=
  clean (String.mk (path.toList.reverse.dropWhile (· ≠ '/')).reverse)

/-- `filepath.Base(path)`: the last element once trailing slashes are removed, `/` for a path of
slashes only. -/
def base (path : String) : String :=
  if path = "" then "."
  else
    let last := ((path.toList.reverse.dropWhile (· = '/')).takeWhile (· ≠ '/')).reverse
    if last = [] then "/" else String.mk last

/-! ## The elements `Clean` keeps -/

/-- An element `Clean` keeps as it is: not empty, not `.` or `..`, and without `/`. -/
def Normal (e : Elem) : Prop := e ≠ [] ∧ e ≠ ['.'] ∧ e ≠ ['.', '.'] ∧ '/' ∉ e

instance : DecidablePred Normal := fun _ => inferInstanceAs (Decidable (_ ∧ _))

theorem toList_append (s t : String) : (s ++ t).toList = s.toList ++ t.toList := rfl

theorem splitSlash_ne_nil (l : List Char) : splitSlash l ≠ [] := by
  cases l with
  | nil => simp [splitSlash]
  | cons c cs =>
    unfold splitSlash
    split_ifs
    · simp
    · split <;> simp

theorem not_mem_of_mem_splitSlash {l : List Char} {e : Elem} (h : e ∈ splitSlash l) : '/' ∉ e := by
  induction l generalizing e with
  | nil => simp_all [splitSlash]
  | cons c cs ih =>
    unfold splitSlash at h
    split_ifs at h with hc
    · rcases List.mem_cons.1 h with rfl | h
      · simp
      · exact ih h
    · split at h <;> rename_i heq
      · simp only [List.mem_singleton] at h
        simp [h, Ne.symm hc]
      · rcases List.mem_cons.1 h with rfl | h
        · exact List.not_mem_cons_of_ne_of_not_mem (Ne.symm hc) (ih (heq ▸ List.mem_cons_self _ _))
        · exact ih (heq ▸ List.mem_cons_of_mem _ h)

theorem splitSlash_append_slash (a b : List Char) :
    splitSlash (a ++ '/' :: b) = splitSlash a ++ splitSlash b := by
  induction a with
  | nil => simp [splitSlash]
  | cons c a ih =>
    by_cases hc : c = '/'
    · simp [splitSlash, hc, ih]
    · obtain ⟨e, es, he⟩ := List.exists_cons_of_ne_nil (splitSlash_ne_nil a)
      simp only [List.cons_append, splitSlash, hc, if_false, List.append_eq, ih, he]

theorem splitSlash_of_not_mem {e : Elem} (h : '/' ∉ e) : splitSlash e = [e] := by
  induction e with
  | nil => rfl
  | cons c e ih =>
    have hc : c ≠ '/' := fun hc => h (hc ▸ List.mem_cons_self _ _)
    simp [splitSlash, hc, ih (fun h' => h (List.mem_cons_of_mem _ h'))]

theorem splitSlash_joinElems {es : List Elem} (hne : es ≠ []) (h : ∀ e ∈ es, '/' ∉ e) :
    splitSlash (joinElems es) = es := by
  induction es with
  | nil => contradiction
  | cons e es ih =>
    cases es with
    | nil => exact splitSlash_of_not_mem (h e (List.mem_singleton_self _))
    | cons e' es' =>
      show splitSlash (e ++ '/' :: joinElems (e' :: es')) = _
      rw [splitSlash_append_slash, splitSlash_of_not_mem (h e (List.mem_cons_self _ _)),
        ih (List.cons_ne_nil _ _) fun x hx => h x (List.mem_cons_of_mem _ hx)]
      rfl

theorem joinElems_append_singleton {es : List Elem} (hne : es ≠ []) (n : Elem) :
    joinElems (es ++ [n]) = joinElems es ++ '/' :: n := by
  induction es with
  | nil => contradiction
  | cons e es ih =>
    cases es with
    | nil => rfl
    | cons e' es' =>
      show e ++ '/' :: joinElems (e' :: es' ++ [n]) =
        (e ++ '/' :: joinElems (e' :: es')) ++ '/' :: n
      rw [ih (List.cons_ne_nil _ _)]
      simp

theorem joinElems_append_last (es : List Elem) (n t : Elem) :
    joinElems (es ++ [n]) ++ t = joinElems (es ++ [n ++ t]) := by
  by_cases hes : es = []
  · subst hes
    rfl
  · simp [joinElems_append_singleton hes]

/-- Normal elements are pushed onto the stack as they are. -/
theorem foldl_cleanStep_normal (r : Bool) {es : List Elem} (h : ∀ e ∈ es, Normal e)
    (st : List Elem) : es.foldl (cleanStep r) st = es.reverse ++ st := by
  induction es generalizing st with
  | nil => rfl
  | cons e es ih =>
    obtain ⟨h₁, h₂, h₃, -⟩ := h e (List.mem_cons_self _ _)
    simp only [List.foldl_cons, cleanStep, h₁, h₂, h₃, or_self, if_false, List.reverse_cons,
      List.append_assoc, List.singleton_append]
    exact ih (fun x hx => h x (List.mem_cons_of_mem _ hx)) _

/-- On a rooted path the stack holds only normal elements: `..` at the root is dropped. -/
theorem cleanStep_true_normal {st : List Elem} (hst : ∀ x ∈ st, Normal x) {e : Elem}
    (he : '/' ∉ e) : ∀ x ∈ cleanStep true st e, Normal x := by
  unfold cleanStep
  by_cases h₁ : e = [] ∨ e = ['.']
  · rw [if_pos h₁]
    exact hst
  rw [if_neg h₁]
  by_cases h₂ : e = ['.', '.']
  · rw [if_pos h₂]
    rcases st with _ | ⟨top, rest⟩
    · simp
    · dsimp only
      rw [if_neg (hst top (List.mem_cons_self _ _)).2.2.1]
      exact fun x hx => hst x (List.mem_cons_of_mem _ hx)
  · rw [if_neg h₂]
    intro x hx
    rcases List.mem_cons.1 hx with rfl | hx
    · exact ⟨fun h => h₁ (.inl h), fun h => h₁ (.inr h), h₂, he⟩
    · exact hst x hx

/-- On any path the stack holds only non-empty elements without `/`. -/
theorem cleanStep_kept (r : Bool) {st : List Elem} (hst : ∀ x ∈ st, x ≠ [] ∧ '/' ∉ x) {e : Elem}
    (he : '/' ∉ e) : ∀ x ∈ cleanStep r st e, x ≠ [] ∧ '/' ∉ x := by
  have hpush : ∀ x ∈ e :: st, e ≠ [] → x ≠ [] ∧ '/' ∉ x := fun x hx hne => by
    rcases List.mem_cons.1 hx with rfl | hx
    · exact ⟨hne, he⟩
    · exact hst x hx
  unfold cleanStep
  by_cases h₁ : e = [] ∨ e = ['.']
  · rw [if_pos h₁]
    exact hst
  rw [if_neg h₁]
  have hne : e ≠ [] := fun h => h₁ (.inl h)
  by_cases h₂ : e = ['.', '.']
  · rw [if_pos h₂]
    rcases st with _ | ⟨top, rest⟩
    · cases r <;> simp
    · dsimp only
      split_ifs
      · exact fun x hx => hpush x hx hne
      · exact fun x hx => hst x (List.mem_cons_of_mem _ hx)
  · rw [if_neg h₂]
    exact fun x hx => hpush x hx hne

theorem foldl_cleanStep_true_normal :
    ∀ (es st : List Elem), (∀ x ∈ st, Normal x) → (∀ e ∈ es, '/' ∉ e) →
      ∀ x ∈ es.foldl (cleanStep true) st, Normal x
  | [], _, hst, _ => hst
  | e :: es, _, hst, hes => foldl_cleanStep_true_normal es _
      (cleanStep_true_normal hst (hes e (List.mem_cons_self _ _)))
      fun x hx => hes x (List.mem_cons_of_mem _ hx)

theorem foldl_cleanStep_kept (r : Bool) :
    ∀ (es st : List Elem), (∀ x ∈ st, x ≠ [] ∧ '/' ∉ x) → (∀ e ∈ es, '/' ∉ e) →
      ∀ x ∈ es.foldl (cleanStep r) st, x ≠ [] ∧ '/' ∉ x
  | [], _, hst, _ => hst
  | e :: es, _, hst, hes => foldl_cleanStep_kept r es _
      (cleanStep_kept r hst (hes e (List.mem_cons_self _ _)))
      fun x hx => hes x (List.mem_cons_of_mem _ hx)

theorem joinElems_head {es : List Elem} (hne : es ≠ []) (h : ∀ x ∈ es, x ≠ [] ∧ '/' ∉ x) :
    (joinElems es).head? ≠ some '/' := by
  rcases es with _ | ⟨e, es⟩
  · contradiction
  obtain ⟨c, cs, rfl⟩ := List.exists_cons_of_ne_nil (h e (List.mem_cons_self _ _)).1
  have hc : c ≠ '/' := fun hc => (h _ (List.mem_cons_self _ _)).2 (hc ▸ List.mem_cons_self _ _)
  cases es <;> simp [joinElems, hc]

@[simp] theorem toList_mk (l : List Char) : (String.mk l).toList = l := rfl

theorem mk_append_slash (a n : List Char) :
    String.mk a ++ "/" ++ String.mk n = String.mk (a ++ '/' :: n) := by
  rw [String.ext_iff]
  show a ++ ['/'] ++ n = a ++ '/' :: n
  simp

theorem isAbs_iff (p : String) : isAbs p = true ↔ p.toList.head? = some '/' := by
  rcases p with ⟨_ | ⟨c, cs⟩⟩
  · decide
  · show ['/'].isPrefixOf (c :: cs) = true ↔ some c = some '/'
    simp only [List.isPrefixOf, Bool.and_true, beq_iff_eq, Option.some.injEq]
    exact eq_comm

/-- A path that cleans to an absolute path cleans to `/` followed by normal elements. -/
theorem clean_eq_of_isAbs {path : String} (h : isAbs (clean path) = true) :
    ∃ es, (∀ e ∈ es, Normal e) ∧ clean path = String.mk ('/' :: joinElems es) := by
  have hsplit : ∀ e ∈ splitSlash path.toList, '/' ∉ e := fun _ he => not_mem_of_mem_splitSlash he
  by_cases hr : path.toList.head? = some '/'
  · refine ⟨((splitSlash path.toList).foldl (cleanStep true) []).reverse, fun e he => ?_, ?_⟩
    · exact foldl_cleanStep_true_normal _ [] (by simp) hsplit e (List.mem_reverse.1 he)
    · simp only [clean, hr, decide_True, if_true]
  · exfalso
    simp only [clean, hr, decide_False, if_false] at h
    have hkept := foldl_cleanStep_kept false _ [] (by simp) hsplit
    split_ifs at h with hbody
    · exact absurd h (by decide)
    · rw [isAbs_iff, toList_mk] at h
      exact joinElems_head (fun hnil => hbody (by rw [hnil]; rfl))
        (fun x hx => hkept x (List.mem_reverse.1 hx)) h

/-- A file in the directory `/ es`, named `n`: the directory part and the name. -/
theorem rooted_append_split (es : List Elem) (n : Elem) :
    '/' :: joinElems (es ++ [n]) = (if es = [] then [] else '/' :: joinElems es) ++ '/' :: n := by
  by_cases hes : es = []
  · subst hes
    rfl
  · rw [if_neg hes, joinElems_append_singleton hes]
    rfl

theorem clean_rooted_slash {es : List Elem} (hes : ∀ e ∈ es, Normal e) :
    clean (String.mk ((if es = [] then [] else '/' :: joinElems es) ++ ['/'])) =
      String.mk ('/' :: joinElems es) := by
  split_ifs with hne
  · subst hne
    rfl
  · have hsplit : splitSlash ('/' :: (joinElems es ++ ['/'])) = [] :: (es ++ [[]]) := by
      rw [show '/' :: (joinElems es ++ ['/']) = '/' :: (joinElems es ++ '/' :: []) from rfl]
      simp only [splitSlash, if_true, splitSlash_append_slash,
        splitSlash_joinElems hne fun e he => (hes e he).2.2.2]
    simp only [clean, toList_mk, List.cons_append, List.head?_cons, decide_True, if_true, hsplit,
      List.foldl_cons, List.foldl_append, foldl_cleanStep_normal _ hes]
    simp [cleanStep]

/-- `Clean` of `/ es` followed by `/n` for a normal `n` is `/ es n`. -/
theorem clean_rooted_append {es : List Elem} (hes : ∀ e ∈ es, Normal e) {n : Elem} (hn : Normal n) :
    clean (String.mk ('/' :: joinElems es) ++ "/" ++ String.mk n) =
      String.mk ('/' :: joinElems (es ++ [n])) := by
  have hnorm : ∀ e ∈ es ++ [n], Normal e := by
    simpa [or_imp, forall_and] using ⟨hes, hn⟩
  have hsplit : splitSlash ('/' :: (joinElems es ++ '/' :: n)) =
      [] :: ((if es = [] then [[]] else []) ++ es ++ [n]) := by
    simp only [splitSlash, if_true, splitSlash_append_slash, splitSlash_of_not_mem hn.2.2.2]
    split_ifs with hne
    · subst hne
      rfl
    · rw [splitSlash_joinElems hne fun e he => (hes e he).2.2.2]
      rfl
  have hfold : (([] :: ((if es = [] then [[]] else []) ++ es ++ [n])).foldl (cleanStep true) []) =
      (es ++ [n]).reverse := by
    rw [List.foldl_cons, List.append_assoc, List.foldl_append, foldl_cleanStep_normal _ hnorm]
    split_ifs <;> simp [cleanStep]
  rw [mk_append_slash]
  simp only [clean, toList_mk, List.cons_append, List.head?_cons, decide_True, if_true, hsplit,
    hfold, List.reverse_reverse]

/-- In `/ es n`, `Dir` is `/ es` and `Base` is `n`. -/
theorem dir_base_rooted {es : List Elem} (hes : ∀ e ∈ es, Normal e) {n : Elem} (hn : Normal n) :
    dir (String.mk ('/' :: joinElems (es ++ [n]))) = String.mk ('/' :: joinElems es) ∧
      base (String.mk ('/' :: joinElems (es ++ [n]))) = String.mk n := by
  have hrev : ('/' :: joinElems (es ++ [n])).reverse =
      n.reverse ++ '/' :: ((if es = [] then [] else '/' :: joinElems es).reverse) := by
    rw [rooted_append_split]
    simp
  have hall : ∀ c ∈ n.reverse, c ≠ '/' := fun c hc h => hn.2.2.2 (h ▸ List.mem_reverse.1 hc)
  obtain ⟨c, cs, hcs⟩ := List.exists_cons_of_ne_nil (List.reverse_ne_nil_iff.2 hn.1)
  have hc : c ≠ '/' := hall c (hcs ▸ List.mem_cons_self _ _)
  constructor
  · rw [dir, toList_mk, hrev, List.dropWhile_append,
      if_pos (by simpa [List.dropWhile_eq_nil_iff] using hall)]
    simp only [List.dropWhile_cons, ne_eq, not_true_eq_false, decide_False, Bool.false_eq_true,
      if_false, List.reverse_cons, List.reverse_reverse]
    exact clean_rooted_slash hes
  · rw [base, if_neg (by simp [String.ext_iff]), toList_mk, hrev, hcs]
    simp only [List.cons_append, List.dropWhile_cons, decide_eq_true_eq, hc, if_false]
    rw [← List.cons_append, ← hcs,
      List.takeWhile_append_of_pos fun a ha => decide_eq_true (hall a ha)]
    simp [hn.1]

/-- An element longer than `..` and without `/` is normal. -/
theorem normal_of_two_lt_length {e : Elem} (hlen : 2 < e.length) (h : '/' ∉ e) : Normal e :=
  ⟨by rintro rfl; simp at hlen, by rintro rfl; simp at hlen, by rintro rfl; simp at hlen, h⟩

/-! ## A file in a clean absolute directory -/

/-- Joining a normal name to a path that cleans to an absolute one appends the name as the
last element. -/
theorem join_clean_of_isAbs {path : String} (h : isAbs (clean path) = true) {name : String}
    (hn : Normal name.toList) :
    ∃ es, (∀ e ∈ es, Normal e) ∧ clean path = String.mk ('/' :: joinElems es) ∧
      join (clean path) name = String.mk ('/' :: joinElems (es ++ [name.toList])) := by
  obtain ⟨es, hes, heq⟩ := clean_eq_of_isAbs h
  have hne : clean path ≠ "" := by
    rw [heq]
    exact fun h' => List.cons_ne_nil _ _ (congrArg String.data h')
  refine ⟨es, hes, heq, ?_⟩
  rw [join, if_pos hne, heq]
  exact clean_rooted_append hes hn

/-- `Dir` of a normal name joined to a clean absolute directory is the directory, `Base` the
name. -/
theorem dir_base_join {path name : String} (h : isAbs (clean path) = true)
    (hn : Normal name.toList) :
    dir (join (clean path) name) = clean path ∧ base (join (clean path) name) = name := by
  obtain ⟨es, hes, heq, hjoin⟩ := join_clean_of_isAbs h hn
  rw [hjoin, heq]
  exact dir_base_rooted hes hn

/-- The same with a suffix appended to the joined path, as for a temporary file. -/
theorem dir_base_join_append {path name : String} (h : isAbs (clean path) = true)
    (suffix : String) (hn : Normal name.toList) (hns : Normal (name ++ suffix).toList) :
    dir (join (clean path) name ++ suffix) = clean path ∧
      base (join (clean path) name ++ suffix) = name ++ suffix := by
  obtain ⟨es, hes, heq, hjoin⟩ := join_clean_of_isAbs h hn
  have happ : join (clean path) name ++ suffix =
      String.mk ('/' :: joinElems (es ++ [(name ++ suffix).toList])) := by
    rw [hjoin]
    show String.mk _ = String.mk ('/' :: joinElems (es ++ [name.toList ++ suffix.toList]))
    rw [← joinElems_append_last]
    rfl
  rw [happ, heq]
  exact dir_base_rooted hes hns

/-! ## Where `..` can stand in a joined path -/

/-- A two-character pattern that does not contain `c` is found in `x ++ c :: y` only inside `x`
or inside `y`. -/
theorem pair_infix_append_cons {a b c : Char} (ha : c ≠ a) (hb : c ≠ b) (x y : List Char) :
    [a, b] <:+: x ++ c :: y ↔ [a, b] <:+: x ∨ [a, b] <:+: y := by
  induction x with
  | nil => simp [List.infix_cons_iff, ha.symm]
  | cons d x ih =>
    have hprefix : [a, b] <+: d :: (x ++ c :: y) ↔ [a, b] <+: d :: x := by
      cases x <;> simp [hb.symm]
    rw [List.cons_append, List.infix_cons_iff, ih, hprefix, List.infix_cons_iff, or_assoc]

/-- `..` is found in joined elements only inside one of them: `/` is not a dot. -/
theorem dotdot_infix_joinElems :
    ∀ es : List Elem, ['.', '.'] <:+: joinElems es ↔ ∃ e ∈ es, ['.', '.'] <:+: e
  | [] => by simp [joinElems]
  | [e] => by simp [joinElems]
  | e :: e' :: es => by
    show ['.', '.'] <:+: e ++ '/' :: joinElems (e' :: es) ↔ _
    rw [pair_infix_append_cons (by decide) (by decide), dotdot_infix_joinElems (e' :: es)]
    simp

end Filepath

end OpenUKR
