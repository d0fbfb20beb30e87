import HeatFeed.Http.Url
import HeatFeed.Proofs.Except
import HeatFeed.Proofs.Text.Trim
import Mathlib.Data.List.TakeDrop

/-!
# Hosts of web URLs

The text of a web URL has a scheme, a host part up to the first character that ends one, and what
follows. Reading it, all that stands before the path comes from the scheme and the host part alone,
as far as there is anything in the host part to read.
-/

namespace HeatFeed.Http

open Text

/-- URLs with a scheme of the web, in lower case. -/
def IsWeb (url : String) : Prop :=
  ∃ scheme rest, (scheme = "http" ∨ scheme = "https") ∧ url = scheme ++ "://" ++ rest

/-- Characters that end the host of a URL. -/
def endsHost (c : Char) : Bool := c == '/' || c == '?' || c == '#' || c == '\\'

/-- A URL of the web with its scheme and its host part, which stands between the scheme and the
first character that ends a host. -/
structure HasHost (url scheme host : String) : Prop where
  web : scheme = "http" ∨ scheme = "https"
  free : ∀ c ∈ host.toList, endsHost c = false
  split : ∃ rest, url = scheme ++ "://" ++ host ++ rest ∧ ∀ c ∈ rest.toList.head?, endsHost c = true

/-! ### Texts -/

theorem IsWeb.append {url : String} (h : IsWeb url) (more : String) : IsWeb (url ++ more) := by
  obtain ⟨scheme, rest, web, rfl⟩ := h
  exact ⟨scheme, rest ++ more, web, String.append_assoc⟩

theorem IsWeb.first {url : String} (h : IsWeb url) : url.toList.head? = some 'h' := by
  obtain ⟨_, rest, rfl | rfl, rfl⟩ := h <;> simp

theorem exists_host {url : String} (h : IsWeb url) : ∃ scheme host, HasHost url scheme host := by
  obtain ⟨scheme, rest, web, rfl⟩ := h
  let free (c : Char) : Bool := !endsHost c
  refine ⟨scheme, String.ofList (rest.toList.takeWhile free), web, fun c mem => ?_,
    String.ofList (rest.toList.dropWhile free), ?_, fun c mem => ?_⟩
  · rw [String.toList_ofList] at mem
    simpa [free] using List.mem_takeWhile_imp mem
  · rw [@String.append_assoc (scheme ++ "://"), ← String.ofList_append,
      List.takeWhile_append_dropWhile, String.ofList_toList]
  · rw [String.toList_ofList] at mem
    simpa [free] using head?_dropWhile rest.toList c mem

theorem HasHost.append {url scheme host more : String} (h : HasHost url scheme host)
    (ended : ∀ c ∈ more.toList.head?, endsHost c = true) :
    HasHost (url ++ more) scheme host := by
  obtain ⟨rest, rfl, mark⟩ := h.split
  refine ⟨h.web, h.free, rest ++ more, String.append_assoc, fun c mem => ?_⟩
  rw [String.toList_append, List.head?_append, Option.mem_def, Option.or_eq_some_iff] at mem
  rcases mem with first | ⟨-, second⟩
  · exact mark c first
  · exact ended c second

theorem HasHost.below {url scheme host : String} (h : HasHost url scheme host) (path : String) :
    HasHost (url ++ ("/" ++ path)) scheme host := by
  refine h.append fun c mem => ?_
  obtain rfl : '/' = c := by simpa using mem
  rfl

/-- A URL has one scheme and one host part. -/
theorem HasHost.unique {url scheme host scheme' host' : String} (h : HasHost url scheme host)
    (h' : HasHost url scheme' host') : scheme = scheme' ∧ host = host' := by
  obtain ⟨web, free, rest, rfl, mark⟩ := h
  obtain ⟨web', free', rest', same, mark'⟩ := h'
  have characters := congrArg String.toList same
  simp only [String.toList_append, List.append_assoc] at characters
  obtain rfl : scheme = scheme' := by
    rcases web with rfl | rfl <;> rcases web' with rfl | rfl <;> simp at characters ⊢
  simp only [List.append_cancel_left_eq] at characters
  refine ⟨rfl, ?_⟩
  -- the host part is what stands before the first character that ends it
  have parts := span_append (p := (!endsHost ·)) (by simpa using free) (by simpa using mark)
  have parts' := span_append (p := (!endsHost ·)) (by simpa using free') (by simpa using mark')
  rw [characters, parts', Prod.mk.injEq] at parts
  exact String.toList_inj.1 parts.1.symm

namespace Url

/-! ### Reading -/

/-- What is read of a URL before its path. -/
def root (u : Url) : Url := { u with path := "", query := none, fragment := none }

/-- Tabs and line ends are passed over. -/
def isRead (c : Char) : Bool := c ≠ '\t' ∧ c ≠ '\n' ∧ c ≠ '\r'

/-- What stands before a character that is kept is not taken for the end of the text. -/
theorem strip_of_mark {front back : List Char} {mark : Char}
    (first : ∀ c ∈ front.head?, ' ' < c) (visible : ' ' < mark) (read : isRead mark = true) :
    ∃ rest, strip (String.ofList (front ++ mark :: back)) = front.filter isRead ++ mark :: rest := by
  have shows : ∀ {c : Char}, ' ' < c → decide (c ≤ ' ') = false := fun h =>
    decide_eq_false (Char.not_le.2 h)
  have start : ∀ c ∈ (front ++ mark :: back).head?, decide (c ≤ ' ') = false := by
    intro c mem
    cases front with
    | nil => cases mem; exact shows visible
    | cons d front => exact shows (first c mem)
  have ends := dropEndWhile_append_cons (p := fun c => decide (c ≤ ' ')) (shows visible) front back
  refine ⟨(dropEndWhile (· ≤ ' ') back).filter isRead, ?_⟩
  rw [strip, String.toList_ofList, dropWhile_of_head start, ends]
  show List.filter isRead _ = _
  rw [List.filter_append, List.filter_cons_of_pos read]

theorem fst_splitAt (mark : Char) (cs : List Char) :
    (splitAt mark cs).1 = cs.takeWhile (· ≠ mark) := by
  rw [splitAt, List.span_eq_takeWhile_dropWhile]
  split <;> simp_all

/-- A mark cuts off nothing of a text that it does not stand in. -/
theorem fst_splitAt_append {mark : Char} {front : List Char} (h : mark ∉ front)
    (back : List Char) :
    ∃ left, (splitAt mark (front ++ back)).1 = front ++ left ∧
      ∀ c ∈ left.head?, c ≠ mark ∧ c ∈ back.head? := by
  refine ⟨(splitAt mark back).1, ?_, fun c mem => ?_⟩
  · rw [fst_splitAt, fst_splitAt, List.takeWhile_append_of_pos]
    intro c mem
    exact decide_eq_true (ne_of_mem_of_not_mem mem h)
  · rw [fst_splitAt] at mem
    have other := List.mem_takeWhile_imp (p := (· ≠ mark)) (List.mem_of_mem_head? mem)
    refine ⟨of_decide_eq_true other, ?_⟩
    obtain ⟨after, split⟩ := List.takeWhile_prefix (p := (· ≠ mark)) (l := back)
    rw [← split, List.head?_append, Option.mem_def.1 mem]
    rfl

theorem root_readAuthority (scheme : String) (authority path other : List Char) :
    (readAuthority scheme authority path).map root =
      (readAuthority scheme authority other).map root := by
  simp only [readAuthority]
  split
  · rfl
  · exact map_bind_congr fun host => map_bind_congr fun port => rfl

theorem readHierarchy_behind {scheme : String} (web : scheme = "http" ∨ scheme = "https")
    {host path : List Char} (named : host ≠ []) (free : ∀ c ∈ host, isSlash true c = false)
    (slashed : ∀ c ∈ path.head?, isSlash true c = true) :
    readHierarchy scheme ('/' :: '/' :: (host ++ path)) = readAuthority scheme host path := by
  have special : scheme ≠ fileScheme ∧ isSpecial scheme = true := by
    rcases web with rfl | rfl <;> decide
  have first : ∀ c ∈ (host ++ path).head?, isSlash true c = false := by
    intro c mem
    rw [List.head?_append_of_ne_nil _ named] at mem
    exact free c (List.mem_of_mem_head? mem)
  rw [readHierarchy, if_neg special.1, if_pos special.2]
  have skipped : ('/' :: '/' :: (host ++ path)).dropWhile (isSlash true) = host ++ path :=
    dropWhile_of_head first
  have split := span_append (p := (!isSlash true ·)) (by simpa using free) (by simpa using slashed)
  rw [skipped, split]

theorem endsHost_iff {c : Char} : endsHost c = true ↔ isSlash true c = true ∨ c = '?' ∨ c = '#' := by
  simp only [endsHost, isSlash, Bool.true_and, Bool.or_eq_true, beq_iff_eq]
  tauto

theorem visible_of_endsHost {c : Char} (h : endsHost c = true) : ' ' < c ∧ isRead c = true := by
  simp only [endsHost, Bool.or_eq_true, beq_iff_eq] at h
  rcases h with ((rfl | rfl) | rfl) | rfl <;> decide

/-- Neither the query nor the fragment matters for what stands before the path. -/
theorem root_ofText_of_scheme {text scheme : String} {rest : List Char}
    (h : splitScheme (strip text) = some (scheme, rest)) :
    (ofText text).map root =
      (readHierarchy scheme (splitAt '?' (splitAt '#' rest).1).1).map root := by
  simp only [ofText, h]
  cases readHierarchy scheme (splitAt '?' (splitAt '#' rest).1).1 <;> rfl

theorem splitScheme_web {scheme : String} (web : scheme = "http" ∨ scheme = "https")
    (rest : List Char) : splitScheme (scheme.toList ++ ':' :: rest) = some (scheme, rest) := by
  rcases web with rfl | rfl <;> rfl

theorem strip_web {scheme : String} (web : scheme = "http" ∨ scheme = "https") (host : String)
    {rest : String} {mark : Char} (first : rest.toList.head? = some mark)
    (ends : endsHost mark = true) :
    ∃ back, strip (scheme ++ "://" ++ host ++ rest) =
      scheme.toList ++ ':' :: '/' :: '/' :: (host.toList.filter isRead ++ mark :: back) := by
  obtain ⟨back, shown⟩ := List.head?_eq_some_iff.1 first
  have characters : scheme ++ "://" ++ host ++ rest =
      String.ofList ((scheme ++ "://" ++ host).toList ++ mark :: back) := by
    rw [← shown, ← String.toList_append, String.ofList_toList]
  obtain ⟨visible, read⟩ := visible_of_endsHost ends
  have start : ∀ c ∈ (scheme ++ "://" ++ host).toList.head?, ' ' < c := by
    rcases web with rfl | rfl <;> simp
  obtain ⟨left, stripped⟩ := strip_of_mark start visible read
  refine ⟨left, ?_⟩
  rw [characters, stripped]
  rcases web with rfl | rfl <;> simp [isRead]

/-- The first of the characters that end the host starts the query, the fragment or a path. -/
theorem exists_path {host : List Char} {mark : Char} (free : ∀ c ∈ host, endsHost c = false)
    (ends : endsHost mark = true) (back : List Char) :
    ∃ path, (splitAt '?' (splitAt '#' ('/' :: '/' :: (host ++ mark :: back))).1).1 =
      '/' :: '/' :: (host ++ path) ∧ ∀ c ∈ path.head?, isSlash true c = true := by
  have noMark : ∀ other, endsHost other = true → other ≠ '/' → other ∉ '/' :: '/' :: host := by
    intro other ends differs mem
    simp only [List.mem_cons, differs, false_or] at mem
    simp [free other mem] at ends
  obtain ⟨left, beforeFragment, first⟩ :=
    fst_splitAt_append (noMark '#' rfl (by decide)) (mark :: back)
  obtain ⟨path, beforeQuery, first'⟩ := fst_splitAt_append (noMark '?' rfl (by decide)) left
  refine ⟨path, ?_, fun c mem => ?_⟩
  · have whole : '/' :: '/' :: (host ++ mark :: back) = '/' :: '/' :: host ++ mark :: back := rfl
    rw [whole, beforeFragment, beforeQuery]
    rfl
  · obtain ⟨noQuery, mem⟩ := first' c mem
    obtain ⟨noFragment, mem⟩ := first c mem
    cases mem
    simpa [noQuery, noFragment] using endsHost_iff.1 ends

/-- All that is read before the path comes from the scheme and the host part, where something
follows it. With nothing to read in the host part, slashes behind it would be passed over. -/
theorem root_ofText {url scheme host : String} (h : HasHost url scheme host)
    (named : host.toList.filter isRead ≠ []) (behind : url ≠ scheme ++ "://" ++ host) :
    (ofText url).map root = (readAuthority scheme (host.toList.filter isRead) []).map root := by
  obtain ⟨web, free, rest, rfl, ended⟩ := h
  let read := host.toList.filter isRead
  have freeRead : ∀ c ∈ read, endsHost c = false := fun c mem => free c (List.mem_filter.1 mem).1
  have noSlash : ∀ c ∈ read, isSlash true c = false := by
    intro c mem
    have unended := freeRead c mem
    rw [← Bool.not_eq_true, endsHost_iff] at unended
    simpa using fun slash => unended (.inl slash)
  obtain ⟨mark, first⟩ : ∃ mark, rest.toList.head? = some mark := by
    rw [← Option.isSome_iff_exists, List.isSome_head?]
    intro empty
    exact behind (by rw [String.toList_eq_nil_iff.1 empty, String.append_empty])
  have ends := ended mark first
  obtain ⟨back, stripped⟩ := strip_web web host first ends
  obtain ⟨path, cut, slashed⟩ := exists_path freeRead ends back
  calc (ofText (scheme ++ "://" ++ host ++ rest)).map root
    _ = (readHierarchy scheme ('/' :: '/' :: (read ++ path))).map root := by
      rw [root_ofText_of_scheme (stripped ▸ splitScheme_web web _), cut]
    _ = (readAuthority scheme read []).map root := by
      rw [readHierarchy_behind web named noSlash slashed, root_readAuthority]

end Url

end HeatFeed.Http
