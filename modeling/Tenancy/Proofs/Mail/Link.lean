import Mathlib.Data.List.DropRight
import Mathlib.Data.List.TakeWhile
import Tenancy.Correspondence
import Tenancy.Proofs.Text.Numerals

/-!
# Hosts and paths of links

A link is the scheme, the host that the host name makes and, behind one slash, the path that the other text makes, unless that is
empty. Neither of them looks at the other text, so no path changes the host that a link leads to. However a bare host is written
(`HostSpelling`), and however a bare path (`PathSpelling`), the link is the same.
-/

namespace Tenancy

namespace Text

variable {p : Char → Bool} {before core after : List Char}

/-- What begins with a text of a class, and goes on with another character, loses just this text. -/
theorem dropWhile_append_exact (hbefore : ∀ c ∈ before, p c = true) (hcore : ∀ c ∈ core.head?, p c = false) :
    (before ++ core).dropWhile p = core := by
  rw [List.dropWhile_append_of_pos hbefore]
  cases core with
  | nil => rfl
  | cons c core => simp [hcore c rfl]

/-- What ends with a text of a class, behind another character, loses just this text. -/
theorem dropEndWhile_append_exact (hcore : ∀ c ∈ core.getLast?, p c = false) (hafter : ∀ c ∈ after, p c = true) :
    dropEndWhile p (core ++ after) = core := by
  unfold dropEndWhile
  rw [List.reverse_append, dropWhile_append_exact, List.reverse_reverse]
  · exact fun c hc => hafter c (List.mem_reverse.mp hc)
  · rwa [List.head?_reverse]

/-- What is left when something is dropped from the front does not begin with it. -/
theorem head?_dropWhile_ne {c : Char} (hc : p c = true) (cs : List Char) : (cs.dropWhile p).head? ≠ some c := by
  intro h
  have hnot := List.head?_dropWhile_not p cs
  rw [h] at hnot
  exact Bool.false_ne_true (hnot.symm.trans hc)

/-- What is left when something is dropped from the end does not end with it. -/
theorem getLast?_dropEndWhile_ne {c : Char} (hc : p c = true) (cs : List Char) : (dropEndWhile p cs).getLast? ≠ some c := by
  unfold dropEndWhile
  rw [List.getLast?_reverse]
  exact head?_dropWhile_ne hc cs.reverse

/-- Blanks around a text are dropped, and no others. -/
theorem trim_between (hbefore : ∀ c ∈ before, isBlank c = true) (hafter : ∀ c ∈ after, isBlank c = true)
    (hfirst : ∀ c ∈ core.head?, isBlank c = false) (hlast : ∀ c ∈ core.getLast?, isBlank c = false) :
    trim (before ++ core ++ after) = core := by
  unfold trim trimStart
  by_cases hcore : core = []
  · subst hcore
    have hblank : (before ++ [] ++ after).dropWhile isBlank = [] := by
      rw [List.dropWhile_eq_nil_iff]
      simpa [or_imp, forall_and] using ⟨hbefore, hafter⟩
    rw [hblank]
    rfl
  · rw [List.append_assoc, dropWhile_append_exact hbefore, dropEndWhile_append_exact hlast hafter]
    rwa [List.head?_append_of_ne_nil _ hcore]

end Text

namespace Mail.Link

open Text

/-! ## Markers at the beginning -/

section

variable {marker cs : List Char}

/-- A marker is not dropped exactly when the text does not begin with it. -/
theorem dropMarker?_eq_none : dropMarker? marker cs = none ↔ ¬ marker <+: cs := by
  constructor
  · rintro h ⟨rest, rfl⟩
    rw [dropMarker?_eq_some.mpr rfl] at h
    cases h
  · intro h
    refine Option.eq_none_iff_forall_ne_some.mpr fun rest hrest => h ⟨rest, ?_⟩
    exact (dropMarker?_eq_some.mp hrest).symm

/-- From a text that does not begin with the marker no copies are dropped. -/
theorem dropCopies_of_unmarked (h : ¬ marker <+: cs) (fuel : Nat) : dropCopies marker fuel cs = cs := by
  cases fuel with
  | zero => rfl
  | succ fuel => rw [dropCopies, dropMarker?_eq_none.mpr h]

/-- One copy of the marker is dropped when no other one is behind it. -/
theorem dropCopies_append (h : ¬ marker <+: cs) (hmarker : marker ≠ []) :
    dropCopies marker (marker ++ cs).length (marker ++ cs) = cs := by
  obtain ⟨m, rest, rfl⟩ := List.exists_cons_of_ne_nil hmarker
  rw [List.cons_append, List.length_cons, ← List.cons_append, dropCopies, dropMarker?_eq_some.mpr rfl]
  exact dropCopies_of_unmarked h _

end

/-! ## Hosts -/

/-- The names of schemes that may stand before a host, with their colons. -/
def schemes : List String := ["http:", "https:"]

/-- A host that is written as plainly as possible: no blanks around it, no slashes behind it, no scheme before it, and not just the
name of a scheme. -/
structure BareHost (b : List Char) : Prop where
  ne_nil : b ≠ []
  first : ∀ c ∈ b.head?, isBlank c = false
  last : ∀ c ∈ b.getLast?, isBlank c = false ∧ c ≠ '/'
  schemeless : ∀ scheme ∈ schemes, b ≠ scheme.toList ∧ ¬ (scheme ++ "//").toList <+: b

/-- A host as it may be written: blanks, a scheme if any, the bare host, slashes and blanks. -/
inductive HostSpelling (b : List Char) : List Char → Prop where
  | mk {before scheme slashes after : List Char} : (∀ c ∈ before, isBlank c = true) →
    (scheme = [] ∨ scheme = "http://".toList ∨ scheme = "https://".toList) → (∀ c ∈ slashes, c = '/') →
    (∀ c ∈ after, isBlank c = true) → HostSpelling b (before ++ (scheme ++ b ++ slashes) ++ after)

/-- A path that is written as plainly as possible: no blanks around it, and no slash before it. -/
structure BarePath (q : List Char) : Prop where
  first : ∀ c ∈ q.head?, isBlank c = false ∧ c ≠ '/'
  last : ∀ c ∈ q.getLast?, isBlank c = false

/-- A path as it may be written: blanks, slashes, the bare path and blanks. -/
inductive PathSpelling (q : List Char) : List Char → Prop where
  | mk {before slashes after : List Char} : (∀ c ∈ before, isBlank c = true) → (∀ c ∈ slashes, c = '/') →
    (∀ c ∈ after, isBlank c = true) → PathSpelling q (before ++ (slashes ++ q) ++ after)

section

variable {b q slashes written : List Char}

/-- The slashes at the end are dropped, and no more. -/
theorem dropEndWhile_slashes {core : List Char} (hcore : ∀ c ∈ core.getLast?, c ≠ '/') (hslashes : ∀ c ∈ slashes, c = '/') :
    dropEndWhile (· == '/') (core ++ slashes) = core :=
  dropEndWhile_append_exact (fun c hc => beq_false_of_ne (hcore c hc)) fun c hc => beq_iff_eq.mpr (hslashes c hc)

theorem schemes_last : ∀ scheme ∈ schemes, scheme.toList.getLast? = some ':' := by decide

/-- Slashes behind a bare host make no scheme of it. -/
theorem BareHost.unmarked (h : BareHost b) (hslashes : ∀ c ∈ slashes, c = '/') (scheme : String) (hscheme : scheme ∈ schemes) :
    ¬ (scheme ++ "//").toList <+: b ++ slashes := by
  obtain ⟨hne, hnot⟩ := h.schemeless scheme hscheme
  intro hmarked
  rcases List.prefix_or_prefix_of_prefix hmarked (List.prefix_append b slashes) with hwhole | ⟨rest, hrest⟩
  · exact hnot hwhole
  · -- the scheme would be the bare host with slashes behind it: without them, the host is its name
    rw [← hrest, List.prefix_append_right_inj] at hmarked
    have hname : dropEndWhile (· == '/') (scheme.toList ++ "//".toList) = scheme.toList :=
      dropEndWhile_slashes (by simp [schemes_last scheme hscheme]) (by simp)
    have hhost : dropEndWhile (· == '/') (b ++ rest) = b :=
      dropEndWhile_slashes (fun c hc => (h.last c hc).2) fun c hc => hslashes c (hmarked.subset hc)
    rw [hrest, String.toList_append, hname] at hhost
    exact hne hhost.symm

/-- A bare host may be written with no more than a scheme before it. -/
theorem HostSpelling.ofScheme {scheme : List Char} (h : scheme = [] ∨ scheme = "http://".toList ∨ scheme = "https://".toList) :
    HostSpelling b (scheme ++ b) := by
  have none (c : Char) (hc : c ∈ []) : isBlank c = true ∧ c = '/' := nomatch hc
  have spelling := @HostSpelling.mk b [] scheme [] [] (fun c hc => (none c hc).1) h (fun c hc => (none c hc).2)
    fun c hc => (none c hc).1
  simpa using spelling

/-- A bare path may be written as it is. -/
theorem PathSpelling.self (q : List Char) : PathSpelling q q := by
  have none (c : Char) (hc : c ∈ []) : isBlank c = true ∧ c = '/' := nomatch hc
  have spelling := @PathSpelling.mk q [] [] [] (fun c hc => (none c hc).1) (fun c hc => (none c hc).2) fun c hc => (none c hc).1
  simpa using spelling

/-- What is written between the blanks begins and ends with something else. -/
theorem BareHost.trim_spelling (h : BareHost b) {before scheme after : List Char} (hbefore : ∀ c ∈ before, isBlank c = true)
    (hscheme : scheme = [] ∨ scheme = "http://".toList ∨ scheme = "https://".toList) (hslashes : ∀ c ∈ slashes, c = '/')
    (hafter : ∀ c ∈ after, isBlank c = true) : trim (before ++ (scheme ++ b ++ slashes) ++ after) = scheme ++ b ++ slashes := by
  refine trim_between hbefore hafter (fun c hc => ?_) fun c hc => ?_
  · rw [List.append_assoc] at hc
    rcases hscheme with rfl | rfl | rfl
    · rw [List.nil_append, List.head?_append_of_ne_nil _ h.ne_nil] at hc
      exact h.first c hc
    · cases hc
      rfl
    · cases hc
      rfl
  · rcases List.eq_nil_or_concat slashes with rfl | ⟨slashes, s, rfl⟩
    · rw [List.append_nil, List.getLast?_append_of_ne_nil _ h.ne_nil] at hc
      exact (h.last c hc).1
    · rw [List.concat_eq_append, ← List.append_assoc, List.getLast?_concat] at hc
      cases hc
      rw [hslashes c (by simp)]
      rfl

/-- However a bare host is written, it is the host of the link. -/
theorem host_spelling (h : BareHost b) (hwritten : HostSpelling b written) : host written = b := by
  obtain @⟨before, scheme, slashes, after, hbefore, hscheme, hslashes, hafter⟩ := hwritten
  have hhttps : ¬ "https://".toList <+: b ++ slashes := h.unmarked hslashes "https:" (by decide)
  have hhttp : ¬ "http://".toList <+: b ++ slashes := h.unmarked hslashes "http:" (by decide)
  have hhost : dropEndWhile (· == '/') (b ++ slashes) = b := dropEndWhile_slashes (fun c hc => (h.last c hc).2) hslashes
  unfold host
  rw [h.trim_spelling hbefore hscheme hslashes hafter, List.append_assoc]
  dsimp only
  rcases hscheme with rfl | rfl | rfl
  · rw [List.nil_append, dropCopies_of_unmarked hhttps, dropCopies_of_unmarked hhttp, hhost]
  · have hother : ¬ "https://".toList <+: "http://".toList ++ (b ++ slashes) := by simp
    rw [dropCopies_of_unmarked hother, dropCopies_append hhttp (by decide), hhost]
  · rw [dropCopies_append hhttps (by decide), dropCopies_of_unmarked hhttp, hhost]

/-- However a bare path is written, it is the path of the link. -/
theorem path_spelling (h : BarePath q) (hwritten : PathSpelling q written) : path written = q := by
  obtain @⟨before, slashes, after, hbefore, hslashes, hafter⟩ := hwritten
  have htrim : trim (before ++ (slashes ++ q) ++ after) = slashes ++ q := by
    refine trim_between hbefore hafter (fun c hc => ?_) fun c hc => ?_
    · cases slashes with
      | nil => exact (h.first c hc).1
      | cons s slashes =>
        cases hc
        rw [hslashes c List.mem_cons_self]
        rfl
    · rcases List.eq_nil_or_concat q with rfl | ⟨q, d, rfl⟩
      · rw [List.append_nil] at hc
        rw [hslashes c (List.mem_of_getLast? hc)]
        rfl
      · rw [List.concat_eq_append, ← List.append_assoc, List.getLast?_concat] at hc
        exact h.last c (by rwa [List.concat_eq_append, List.getLast?_concat])
  unfold path
  rw [htrim, dropWhile_append_exact (fun c hc => beq_iff_eq.mpr (hslashes c hc)) fun c hc => beq_false_of_ne (h.first c hc).2]

end

/-! ## Links -/

section

variable (hostname p : String)

/-- The host of a link. -/
def hostText : String := String.ofList (host hostname.toList)

/-- The path of a link, without the slash before it. -/
def pathText : String := String.ofList (path p.toList)

/-- The text of a host does not end with a slash. -/
theorem getLast?_hostText : (hostText hostname).toList.getLast? ≠ some '/' := by
  rw [hostText, String.toList_ofList]
  exact getLast?_dropEndWhile_ne (by decide) _

/-- The text of a path does not begin with a slash. -/
theorem head?_pathText : (pathText p).toList.head? ≠ some '/' := by
  rw [pathText, String.toList_ofList]
  exact head?_dropWhile_ne (by decide) _

/-- A link is made of a host and a path. -/
theorem serverUrl_eq :
    serverUrl hostname p = "https://" ++ hostText hostname ++ if pathText p = "" then "" else "/" ++ pathText p := by
  rw [← String.toList_inj]
  unfold serverUrl pathText hostText
  cases path p.toList with
  | nil => simp
  | cons c rest => simp

/-- The host of a link as it is looked up: what stands behind the scheme and before the next slash. -/
def authority (link : String) : List Char := (link.toList.drop "https://".length).takeWhile (· ≠ '/')

/-- The authority of a server is the text of its host up to the first slash. -/
theorem authority_serverUrl : authority (serverUrl hostname p) = (hostText hostname).toList.takeWhile (· ≠ '/') := by
  -- what comes behind the host is nothing, or a slash first
  have hbehind : ((if pathText p = "" then "" else "/" ++ pathText p : String).toList.takeWhile (· ≠ '/')) = [] := by
    split
    · rfl
    · simp
  unfold authority
  rw [serverUrl_eq, String.append_assoc, String.toList_append, String.toList_append,
    List.drop_left' String.length_toList, List.takeWhile_append, hbehind, List.append_nil]
  split
  · next hwhole => exact ((List.takeWhile_prefix _).eq_of_length hwhole).symm
  · rfl

end

/-- A bare host is the host of its links, however it is written. -/
theorem hostText_spelling {b written : String} (h : BareHost b.toList) (hwritten : HostSpelling b.toList written.toList) :
    hostText written = b := by
  rw [hostText, host_spelling h hwritten, String.ofList_toList]

/-- However a bare path is written, its text is the bare path. -/
theorem pathText_spelling {q written : String} (h : BarePath q.toList) (hwritten : PathSpelling q.toList written.toList) :
    pathText written = q := by
  rw [pathText, path_spelling h hwritten, String.ofList_toList]

/-- **Links.** A link is made of a host that the host name alone decides and that does not end in a slash, and of a path that the
other text alone decides and that does not begin with one, if it is not empty; so no path changes the host that a link leads to.
A bare host and a bare path stand in it as they are. However they are written, they make the same link, and a link to a host is as
good as the host. -/
theorem links_by_parts :
    (∃ h q : String → String,
      (∀ hostname, (h hostname).toList.getLast? ≠ some '/') ∧ (∀ p, (q p).toList.head? ≠ some '/') ∧
      (∀ b : String, BareHost b.toList → h b = b) ∧ (∀ path : String, BarePath path.toList → q path = path) ∧
      ∀ hostname p,
        (q p = "" ∧ serverUrl hostname p = "https://" ++ h hostname ∨
          q p ≠ "" ∧ serverUrl hostname p = "https://" ++ h hostname ++ "/" ++ q p) ∧
        authority (serverUrl hostname p) = (h hostname).toList.takeWhile (· ≠ '/')) ∧
    ∀ b : String, BareHost b.toList →
      (∀ hostname p path : String, HostSpelling b.toList hostname.toList → BarePath path.toList →
        PathSpelling path.toList p.toList → serverUrl hostname p = serverUrl b path) ∧
      ∀ p, serverUrl (serverUrl b "") p = serverUrl b p := by
  have hbare (b : String) (hb : BareHost b.toList) : hostText b = b := hostText_spelling hb (.ofScheme (.inl rfl))
  have hplain (path : String) (hpath : BarePath path.toList) : pathText path = path := pathText_spelling hpath (.self _)
  refine ⟨⟨hostText, pathText, getLast?_hostText, head?_pathText, hbare, hplain,
    fun hostname p => ⟨?_, authority_serverUrl hostname p⟩⟩, ?_⟩
  · rw [serverUrl_eq]
    by_cases hpath : pathText p = ""
    · exact .inl ⟨hpath, by rw [if_pos hpath, String.append_empty]⟩
    · exact .inr ⟨hpath, by rw [if_neg hpath, ← String.append_assoc]⟩
  · intro b hb
    refine ⟨fun hostname p path hhost hpath hspelling => ?_, fun p => ?_⟩
    · rw [serverUrl_eq, serverUrl_eq, hostText_spelling hb hhost, pathText_spelling hpath hspelling, hbare b hb,
        hplain path hpath]
    · have hlink : serverUrl b "" = "https://" ++ b := by
        rw [serverUrl_eq, hbare b hb]
        exact String.append_empty
      have hhost : hostText (serverUrl b "") = b := by
        refine hostText_spelling hb ?_
        rw [hlink, String.toList_append]
        exact .ofScheme (.inr (.inr rfl))
      rw [serverUrl_eq (serverUrl b ""), serverUrl_eq b p, hhost, hbare b hb]

/-- Blanks, a scheme and slashes around a host and a path make no difference to the link. -/
theorem links_by_parts_padded :
    (BareHost "example.com".toList ∧ HostSpelling "example.com".toList "\thttp://example.com// ".toList ∧
      BarePath "reset".toList ∧ PathSpelling "reset".toList " //reset\n".toList) ∧
    serverUrl "example.com" "reset" = "https://example.com/reset" ∧
    serverUrl "\thttp://example.com// " " //reset\n" = serverUrl "example.com" "reset" ∧
    serverUrl (serverUrl "example.com" "") "reset" = serverUrl "example.com" "reset" := by
  have hb : BareHost "example.com".toList := ⟨by decide, by simp [isBlank], by simp [isBlank], by decide⟩
  have hhost : HostSpelling "example.com".toList "\thttp://example.com// ".toList :=
    @HostSpelling.mk _ ['\t'] "http://".toList ['/', '/'] [' '] (by simp [isBlank]) (.inr (.inl rfl)) (by simp) (by simp [isBlank])
  have hpath : BarePath "reset".toList := ⟨by simp [isBlank], by simp [isBlank]⟩
  have hspelling : PathSpelling "reset".toList " //reset\n".toList :=
    @PathSpelling.mk _ [' '] ['/', '/'] ['\n'] (by simp [isBlank]) (by simp) (by simp [isBlank])
  obtain ⟨⟨h, q, -, -, hhosts, hpaths, hlinks⟩, hspellings⟩ := links_by_parts
  have hlink : serverUrl "example.com" "reset" = "https://example.com/reset" := by
    obtain ⟨hempty, -⟩ | ⟨-, hlink⟩ := (hlinks "example.com" "reset").1
    · rw [hpaths "reset" hpath] at hempty
      exact absurd hempty (by decide)
    · rw [hlink, hhosts "example.com" hb, hpaths "reset" hpath]
      decide
  obtain ⟨hsame, hagain⟩ := hspellings _ hb
  exact ⟨⟨hb, hhost, hpath, hspelling⟩, hlink, hsame _ _ _ hhost hpath hspelling, hagain "reset"⟩

end Mail.Link

end Tenancy
