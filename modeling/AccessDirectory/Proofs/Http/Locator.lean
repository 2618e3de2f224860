import AccessDirectory.Http.Application
import AccessDirectory.Proofs.Text.Percent
import Mathlib.Data.List.TakeWhile

/-! Where targets below the usual base lead. The target of an object names its collection and, escaped as
one segment of a path, its identifier. It leads to the object just if no slash is in the identifier,
as escapes are read before the path is cut. -/

namespace AccessDirectory.Http
open Text

namespace Reference

def IsPathChar (c : Char) : Prop := Percent.IsPlain c ∨ c = '/'

theorem IsPathChar.ne {c d : Char} (h : IsPathChar c)
    (hd : ¬(Percent.IsPlain d ∨ d = '/') := by decide) : c ≠ d := by
  rintro rfl
  exact hd h

theorem read_path {c : Char} {rest : List Char} (hc : c ≠ '/')
    (h : ∀ x ∈ '/' :: c :: rest, IsPathChar x) :
    read ('/' :: c :: rest) =
      .ok { scheme := [], host := [], path := '/' :: c :: rest, query := [] } := by
  have hclean : clean ('/' :: c :: rest) = '/' :: c :: rest := by
    have hdrop : ('/' :: c :: rest).dropWhile (fun x => x.toNat ≤ 0x20) = '/' :: c :: rest := rfl
    rw [clean, hdrop, List.filter_eq_self]
    intro x hx
    simp [(h x hx).ne (d := '\t'), (h x hx).ne (d := '\n'), (h x hx).ne (d := '\r')]
  have hfragment : ('/' :: c :: rest).takeWhile (· ≠ '#') = '/' :: c :: rest := by
    rw [List.takeWhile_eq_self_iff]
    intro x hx
    simp [(h x hx).ne (d := '#')]
  have hscheme : splitScheme ('/' :: c :: rest) = ([], '/' :: c :: rest) := by
    have hdrop : ('/' :: c :: rest).dropWhile isSchemeChar = '/' :: c :: rest := rfl
    simp [splitScheme, hdrop]
  have hhost : splitHost ('/' :: c :: rest) = ([], '/' :: c :: rest) := by
    unfold splitHost
    split
    next heq =>
      cases heq
      exact absurd rfl hc
    next => rfl
  have hquery : ('/' :: c :: rest).takeWhile (· ≠ '?') = '/' :: c :: rest := by
    rw [List.takeWhile_eq_self_iff]
    intro x hx
    simp [(h x hx).ne (d := '?')]
  have hnone : ('/' :: c :: rest).dropWhile (· ≠ '?') = [] := by
    rw [List.dropWhile_eq_nil_iff]
    intro x hx
    simp [(h x hx).ne (d := '?')]
  simp only [read, hclean, hfragment, hscheme, hhost, hquery, hnone]
  rfl

end Reference

namespace Target

theorem read_path {s t : String} {c d : Char} {rest more : List Char}
    (hs : s.toList = '/' :: c :: rest) (hc : c ≠ '/')
    (h : ∀ x ∈ s.toList, Reference.IsPathChar x) (ht : Percent.decode s = t)
    (hroot : t.toList = '/' :: d :: more) (hd : d ≠ '/') :
    Target.read s = .ok { scheme := "", path := t, query := [] } := by
  have hread := Reference.read_path hc (hs ▸ h)
  have hhost : Reference.normalHost [] = .ok [] := rfl
  have hwrite : Reference.write
      { scheme := [], host := [], path := '/' :: c :: rest, query := [] } = '/' :: c :: rest := by
    simp [Reference.write, Reference.hostSchemes, Ne.symm hc]
  have hpath : String.ofList ('/' :: c :: rest) = s := by rw [← hs, String.ofList_toList]
  have hrooted : rooted t = t := by
    rw [rooted, hroot]
    simp only [List.dropWhile_cons, hd, decide_true, decide_false, if_true]
    rw [← String.toList_inj, String.toList_ofList, hroot]
    rfl
  have hsome : (!t.isEmpty) = true := by
    have hne : t ≠ "" := by
      rintro rfl
      cases hroot
    simp [hne]
  have hchecked : Reference.checkHost (Reference.splitUser []).2 = .ok () := rfl
  simp only [Target.read, hs, hread, inner, hhost, bind, Except.bind, List.isEmpty_nil, if_true,
    hchecked, hwrite, hpath, ht, hrooted, hsome]
  rfl

def ofPath (path : String) : Target := { scheme := "", path, query := [] }

end Target

theorem of_collectionKind? {name : String} {k : Kind} (h : collectionKind? name = some k) :
    name = "users" ∧ k = .user ∨ name = "userGroups" ∧ k = .userGroup ∨
      name = "connections" ∧ k = .connection := by
  unfold collectionKind? at h
  grind

section
variable {separator : Char}

theorem parts_of_not_mem {cs : List Char} (h : separator ∉ cs) : parts separator cs = [cs] := by
  induction cs with
  | nil => rfl
  | cons c rest ih =>
    obtain ⟨hc, hrest⟩ := not_or.1 (mt List.mem_cons.2 h)
    rw [parts, if_neg (Ne.symm hc), ih hrest]

theorem parts_append {cs : List Char} (h : separator ∉ cs) (rest : List Char) :
    parts separator (cs ++ separator :: rest) = cs :: parts separator rest := by
  induction cs with
  | nil => rw [List.nil_append, parts, if_pos rfl]
  | cons c more ih =>
    obtain ⟨hc, hmore⟩ := not_or.1 (mt List.mem_cons.2 h)
    rw [List.cons_append, parts, if_neg (Ne.symm hc), ih hmore]

end

theorem downFrom_one (n : Nat) : downFrom (n + 1) 1 = (n + 1) :: downFrom n 1 := by
  simp [downFrom, List.range'_1_concat, Nat.add_comm]

namespace Segment

theorem trial_gap {v : Variable} (hv : v.kind = .anyText) {text : String} (hne : text ≠ "")
    (h : '/' ∉ text.toList) : Segment.trial [.gap v] text.toList = .fits [text] := by
  have hbroken : Segment.isBroken [.gap v] = false := by
    simp [isBroken, gaps, hv, VariableKind.isBroken, VariableKind.anyText]
  have hrun : text.toList.takeWhile (· ≠ '/') = text.toList := by
    rw [List.takeWhile_eq_self_iff]
    intro x hx
    simpa using fun heq : x = '/' => h (heq ▸ hx)
  obtain ⟨n, hn⟩ : ∃ n, text.toList.length = n + 1 :=
    Nat.exists_eq_add_one.2 (List.length_pos_iff.2 (by simpa using hne))
  have hlengths : v.kind.lengths text.toList = text.toList.length :: downFrom n 1 := by
    simp only [hv, VariableKind.anyText, VariableKind.lengths, VariableKind.textLengths, hrun, hn]
    exact downFrom_one n
  -- The longest run is tried first, and it is the whole text.
  have hmatch : Segment.match? [.gap v] text.toList = some [text] := by
    simp [match?, hlengths]
  have harranged : arranged [text] = [text] := by simp [arranged, List.range_succ]
  simp only [trial, hbroken, hmatch, harranged]
  rfl

theorem trial_nil : Segment.trial [] [] = .fits [] := by
  simp [trial, match?, isBroken, gaps, arranged]

theorem trial_fixed (text : List Char) : Segment.trial [.fixed text] text = .fits [] := by
  have hprefix : text.isPrefixOf? text = some [] := by
    induction text with
    | nil => rfl
    | cons c rest ih =>
      change (if c == c then rest.isPrefixOf? rest else none) = some []
      rw [if_pos BEq.rfl, ih]
  have hmatch : Segment.match? [.fixed text] text = some [] := by
    simp [match?, hprefix]
  simp [trial, hmatch, isBroken, gaps, arranged]

end Segment

namespace Pattern

/-- A pattern without a segment that may match slashes or nothing at all: what it fits has as many
parts as it has segments. -/
theorem trial_cases {p : Pattern} (h : ∀ s ∈ p, s.isBroken = false ∧ s.spans = false)
    (path : List (List Char)) :
    p.trial path = .misses ∨ p.length = path.length ∧ ∃ values, p.trial path = .fits values := by
  induction p generalizing path with
  | nil =>
    cases path with
    | nil => exact .inr ⟨rfl, [], rfl⟩
    | cons part more => exact .inl rfl
  | cons s rest ih =>
    cases path with
    | nil => exact .inl rfl
    | cons part more =>
      obtain ⟨hbroken, hspans⟩ := h s List.mem_cons_self
      have hrest := ih (fun t ht => h t (List.mem_cons_of_mem _ ht)) more
      rw [trial, if_neg (by simp [hspans]), Segment.trial, if_neg (by simp [hbroken])]
      cases s.match? part with
      | none => exact .inl rfl
      | some values =>
        obtain hmiss | ⟨hlength, more', hfits⟩ := hrest
        · exact .inl (by simp only [Trial.andThen, hmiss])
        · refine .inr ⟨by simp [hlength], Segment.arranged values ++ more', ?_⟩
          simp only [Trial.andThen, hfits]

theorem trial_cons {s : Segment} {rest : Pattern} {part : List Char} {more : List (List Char)}
    {values values' : List String} (hs : s.spans = false) (h : s.trial part = .fits values)
    (h' : Pattern.trial rest more = .fits values') :
    Pattern.trial (s :: rest) (part :: more) = .fits (values ++ values') := by
  rw [trial, if_neg (by simp [hs])]
  simp only [Trial.andThen, h, h']

end Pattern

def usualBase : Pattern := [[], [.fixed "api".toList]]

theorem basePattern_usual : basePattern "/api" = .ok usualBase := by
  rfl

theorem usual_plain : ∀ s ∈ objectPattern usualBase, s.isBroken = false ∧ s.spans = false := by
  decide

theorem searchSite_usual (rest : List Char) : searchSite ('/' :: 'a' :: rest) = {} := by
  have hfile : isFilePath ('/' :: 'a' :: rest) = false := rfl
  simp [searchSite, hfile]

def objectPath (name i : String) : String := "/api/" ++ name ++ "/" ++ i

section
variable {name i : String}

theorem toList_objectPath (name i : String) : (objectPath name i).toList =
    '/' :: 'a' :: 'p' :: 'i' :: '/' :: (name.toList ++ '/' :: i.toList) := by
  simp [objectPath]

theorem parts_objectPath (hname : '/' ∉ name.toList) :
    parts '/' (objectPath name i).toList =
      [] :: "api".toList :: name.toList :: parts '/' i.toList := by
  have hpath : (objectPath name i).toList =
      [] ++ '/' :: ("api".toList ++ '/' :: (name.toList ++ '/' :: i.toList)) :=
    toList_objectPath name i
  rw [hpath, parts_append (by simp), parts_append (by decide), parts_append hname]

theorem collection_misses (hname : '/' ∉ name.toList) :
    (collectionPattern usualBase).trial (parts '/' (objectPath name i).toList) = .misses := by
  obtain hmiss | ⟨hlength, -⟩ := Pattern.trial_cases (p := collectionPattern usualBase)
    (by decide) (parts '/' (objectPath name i).toList)
  · exact hmiss
  · rw [parts_objectPath hname] at hlength
    have hsome := List.length_pos_iff.2 (parts_ne_nil '/' i.toList)
    simp only [List.length_cons] at hlength
    have hthree : (collectionPattern usualBase).length = 3 := rfl
    omega

theorem search_objectPath (hname : '/' ∉ name.toList) (hne : name ≠ "") (hi : '/' ∉ i.toList)
    (hine : i ≠ "") :
    search usualBase (objectPath name i).toList =
      { destinations := [{ endpoint := .object name i }] } := by
  have htrial : (objectPattern usualBase).trial (parts '/' (objectPath name i).toList) =
      .fits [name, i] := by
    rw [parts_objectPath hname, parts_of_not_mem hi]
    exact Pattern.trial_cons rfl Segment.trial_nil <| Pattern.trial_cons rfl (Segment.trial_fixed _) <|
      Pattern.trial_cons rfl (Segment.trial_gap rfl hne hname) <|
      Pattern.trial_cons rfl (Segment.trial_gap rfl hine hi) rfl
  have hsite : searchSite (objectPath name i).toList = {} := by
    rw [toList_objectPath]
    exact searchSite_usual _
  rw [search, if_pos (by rfl), hsite]
  simp only [searchDirectories, found, htrial, collection_misses hname]
  rfl

/-- An identifier with a slash has a path with too many parts. -/
theorem search_objectPath_of_mem (hname : '/' ∉ name.toList) (hi : '/' ∈ i.toList) :
    search usualBase (objectPath name i).toList = {} := by
  have hmiss : (objectPattern usualBase).trial (parts '/' (objectPath name i).toList) =
      .misses := by
    obtain hmiss | ⟨hlength, -⟩ := Pattern.trial_cases usual_plain
      (parts '/' (objectPath name i).toList)
    · exact hmiss
    · -- Each slash in the identifier makes one more part than the pattern has segments.
      have hcount := List.count_pos_iff.2 hi
      have hfour : (objectPattern usualBase).length = 4 := rfl
      rw [parts_objectPath hname] at hlength
      simp only [List.length_cons, parts_length] at hlength
      omega
  have hsite : searchSite (objectPath name i).toList = {} := by
    rw [toList_objectPath]
    exact searchSite_usual _
  rw [search, if_pos (by rfl), hsite]
  simp only [searchDirectories, found, hmiss, collection_misses hname]
  rfl

theorem route_objectPath (hname : '/' ∉ name.toList) (hne : name ≠ "") (hi : '/' ∉ i.toList)
    (hine : i ≠ "") :
    route usualBase .get false (objectPath name i) =
      .destination { endpoint := .object name i } := by
  have hsearch := search_objectPath hname hne hi hine
  simp only [route, hsearch]
  rfl

end

theorem slash_not_mem {name : String} {k : Kind} (h : collectionKind? name = some k) :
    '/' ∉ name.toList ∧ name ≠ "" ∧ ∀ c ∈ name.toList, Percent.IsPlain c := by
  have hname : '/' ∉ name.toList ∧ name ≠ "" ∧ name.toList.all Percent.isUnreserved := by
    obtain ⟨rfl, -⟩ | ⟨rfl, -⟩ | ⟨rfl, -⟩ := of_collectionKind? h <;> decide
  exact ⟨hname.1, hname.2.1, fun c hc => .inl (List.all_eq_true.1 hname.2.2 c hc)⟩

theorem percent_not_mem {name : String} {k : Kind} (h : collectionKind? name = some k) :
    '%' ∉ ("/api/" ++ name).toList ∧ '%' ∉ ("/api/" ++ name ++ "/").toList := by
  obtain ⟨rfl, -⟩ | ⟨rfl, -⟩ | ⟨rfl, -⟩ := of_collectionKind? h <;> decide

theorem Target.read_collectionPath {name : String} {k : Kind} (h : collectionKind? name = some k) :
    Target.read ("/api/" ++ name) = .ok (ofPath ("/api/" ++ name)) := by
  obtain ⟨-, -, hplain⟩ := slash_not_mem h
  have hpath : ("/api/" ++ name).toList = '/' :: 'a' :: 'p' :: 'i' :: '/' :: name.toList := by simp
  refine read_path hpath (by decide) (fun x hx => ?_)
    (Percent.decode_of_not_mem (percent_not_mem h).1) hpath (by decide)
  rw [hpath] at hx
  simp only [List.mem_cons] at hx
  obtain rfl | rfl | rfl | rfl | rfl | hx := hx
  · exact .inr rfl
  · exact .inl (by decide)
  · exact .inl (by decide)
  · exact .inl (by decide)
  · exact .inr rfl
  · exact .inl (hplain x hx)

theorem Target.read_objectPath {name : String} {k : Kind} (h : collectionKind? name = some k)
    (i : String) :
    Target.read (objectPath name (Percent.encodeSegment i)) = .ok (ofPath (objectPath name i)) := by
  obtain ⟨-, -, hplain⟩ := slash_not_mem h
  refine read_path (toList_objectPath ..) (by decide) (fun x hx => ?_)
    (Percent.decode_append_encodeSegment (percent_not_mem h).2 i) (toList_objectPath ..) (by decide)
  rw [toList_objectPath] at hx
  simp only [List.mem_cons, List.mem_append] at hx
  obtain rfl | rfl | rfl | rfl | rfl | hx | rfl | hx := hx
  · exact .inr rfl
  · exact .inl (by decide)
  · exact .inl (by decide)
  · exact .inl (by decide)
  · exact .inr rfl
  · exact .inl (hplain x hx)
  · exact .inr rfl
  · exact .inl (Percent.isPlain_of_mem_encodeSegment hx)

structure Found.Gettable (f : Found) : Prop where
  ended : f.isBroken = false
  allows : ∀ d ∈ f.destinations, d.endpoint.allows .get

theorem Found.Gettable.append {f g : Found} (hf : f.Gettable) (hg : g.Gettable) :
    (f.append g).Gettable := by
  rw [Found.append, if_neg (by simp [hf.ended])]
  exact ⟨hg.ended, fun d hd => (List.mem_append.1 hd).elim (hf.allows d) (hg.allows d)⟩

theorem gettable_found (base : Pattern) {p : Pattern}
    (endpoint : List (Variable × String) → Endpoint)
    (h : ∀ s ∈ p, s.isBroken = false ∧ s.spans = false)
    (hget : ∀ bound, (endpoint bound).allows .get) (path : List Char) :
    (found base p endpoint path).Gettable := by
  unfold found
  obtain hmiss | ⟨-, values, hfits⟩ := Pattern.trial_cases h (parts '/' path)
  · rw [hmiss]
    exact ⟨rfl, fun d hd => by cases hd⟩
  · rw [hfits]
    refine ⟨rfl, fun d hd => ?_⟩
    obtain rfl := List.mem_singleton.1 hd
    exact hget _

theorem gettable_searchSite (path : List Char) : (searchSite path).Gettable := by
  refine ⟨rfl, fun d hd => ?_⟩
  simp only [searchSite] at hd
  split at hd
  · obtain rfl := List.mem_singleton.1 hd
    rfl
  · split at hd
    · obtain rfl := List.mem_singleton.1 hd
      rfl
    · split at hd
      · obtain rfl := List.mem_singleton.1 hd
        rfl
      · cases hd

theorem gettable_search (path : List Char) : (search usualBase path).Gettable := by
  have hobjects := gettable_found usualBase (fun bound =>
      .object (valueOf collectionVariable bound) (valueOf identifierVariable bound))
    usual_plain (fun _ => rfl) path
  have hcollections := gettable_found usualBase
    (fun bound => .collection (valueOf collectionVariable bound))
    (p := collectionPattern usualBase) (by decide) (fun _ => rfl) path
  rw [search, if_pos (by rfl)]
  exact (hobjects.append hcollections).append (gettable_searchSite path)

theorem route_objectPath_of_mem {name i : String} (hname : '/' ∉ name.toList)
    (hi : '/' ∈ i.toList) :
    route usualBase .get false (objectPath name i) = .redirect ∨
      route usualBase .get false (objectPath name i) = .unknown := by
  have hsearch := search_objectPath_of_mem hname hi
  obtain ⟨hbroken, hallows⟩ := gettable_search (mergeSlashes (objectPath name i).toList)
  simp only [route, hsearch, List.find?_nil]
  cases hmerged : (search usualBase (mergeSlashes (objectPath name i).toList)).destinations with
  | nil =>
    right
    simp [hbroken]
  | cons d rest =>
    left
    have hd : d.endpoint.allows .get := hallows d (hmerged ▸ List.mem_cons_self)
    simp [hd]

end AccessDirectory.Http
