import PatternRefinement.Proofs.Service.Places
import PatternRefinement.Proofs.WebAddress.Reading
import PatternRefinement.Proofs.WebAddress.Segments

/-!
# The path that a user names

The places of a service stand below the path that its user names.  What is asked there is asked at
the host that was named.

## Main Definitions

* `IsMarked` — a text with a query or a fragment
* `SlashAdded` — what a slash at the end of a text adds to the path that is read from it
* `KeepsPath` — the path that a text names stays in front of the places below it

## Main Statements

* `WebAddress.read_withFinalSlash` — what a text with a slash at its end is read as
* `Service.places_below_named` — the places of a service stand below the path that its user named,
  exactly if the text keeps it
* `Service.path_lost_before_query` — a query behind a path is where the slash ends up

## Design Notes

The slash is added to a text before anything in it is read, so it belongs to the part that the text
ends with.  If this is a query or a fragment, then the path stays as it is, and the last segment of
a path without a slash at its end gives way to the places.  A backslash ends a path as well, but is
no slash, so that one more segment comes in between.  And a control character at the end of a text
counts once there is a slash behind it; nothing is said about such a text here.
-/

namespace PatternRefinement

/-- Whether a text has a query or a fragment. -/
def IsMarked (text : List Char) : Prop := '?' ∈ text ∨ '#' ∈ text

instance (text : List Char) : Decidable (IsMarked text) :=
  inferInstanceAs (Decidable (_ ∨ _))

/-- What a slash at the end of a text adds to the path that is read from it. -/
inductive SlashAdded (text path : List Char) : List Char → Prop where
  /-- The slash belongs to the query or the fragment. -/
  | marked (marked : IsMarked text) : SlashAdded text path path
  /-- There is a slash at the end already, or nothing but a host. -/
  | closed (unmarked : ¬IsMarked text) (other : text.getLast? ≠ some '\\')
      (ends : lastSegment path = []) : SlashAdded text path path
  /-- The slash is behind the last name. -/
  | named (unmarked : ¬IsMarked text) (other : text.getLast? ≠ some '\\')
      (name : lastSegment path ≠ []) : SlashAdded text path (path ++ ['/'])
  /-- The slash is behind a backslash. -/
  | backslash (unmarked : ¬IsMarked text) (last : text.getLast? = some '\\')
      (ends : lastSegment path = []) : SlashAdded text path (path ++ ['/'])

/-- Whether the path that a text names stays in front of the places below it: behind it there is a
slash, or one can be added. -/
def KeepsPath (text : List Char) (path : AddressPath) : Prop :=
  if IsMarked text then path.render.toList.getLast? = some '/'
  else text.getLast? ≠ some '\\'

/-! ## Ends of texts -/

theorem getLast?_of_suffix {path text : List Char} (suffix : path <:+ text) (inside : path ≠ []) :
    path.getLast? = text.getLast? := by
  obtain ⟨front, rfl⟩ := suffix
  exact (List.getLast?_append_of_ne_nil front inside).symm

/-- No name stands at the end of what ends with a slash. -/
theorem lastSegment_of_suffix {path text : List Char} (suffix : path <:+ text)
    (slash : ∀ c ∈ text.getLast?, isSlash true c = true) : lastSegment path = [] := by
  obtain ⟨front, rfl⟩ := suffix
  exact lastSegment_eq_nil_iff.mpr fun c mem =>
    slash c (List.mem_getLast?_append_of_mem_getLast? mem)

theorem withoutSlash_suffix (path : List Char) : withoutSlash true path <:+ path := by
  cases path with
  | nil => exact List.suffix_rfl
  | cons c rest =>
      rw [withoutSlash]
      split
      · exact List.suffix_cons c rest
      · exact List.suffix_rfl

namespace WebAddress

theorem getLast?_cleaned {text : List Char} (plain : ∀ c ∈ text.getLast?, isEdge c = false) :
    (cleaned text).getLast? = text.getLast? := by
  rcases List.eq_nil_or_concat' text with rfl | ⟨front, c, rfl⟩
  · rfl
  · rw [cleaned_concat (plain c List.getLast?_concat), List.getLast?_concat, List.getLast?_concat]

/-- A query or a fragment stands behind a scheme. -/
theorem isMarked_of_cut {text inside : List Char} {scheme : String}
    (cut : cutScheme? (cleaned text) = some (scheme, inside)) : IsMarked inside ↔ IsMarked text :=
  or_congr ((mem_iff_of_cut cut (by decide) (by decide)).symm.trans (mem_cleaned_iff (by decide)))
    ((mem_iff_of_cut cut (by decide) (by decide)).symm.trans (mem_cleaned_iff (by decide)))

theorem main_of_not_isMarked {text : List Char} (unmarked : ¬IsMarked text) :
    (AddressParts.ofText text).main = text :=
  AddressParts.main_of_unmarked (not_or.mp unmarked).1 (not_or.mp unmarked).2

/-- A slash at the end of a text leaves what counts of it as it is. -/
theorem cleaned_withFinalSlash (text : String) :
    ∃ behind, cleaned (withFinalSlash text).toList = cleaned text.toList ++ behind ∧
      ':' ∉ behind := by
  unfold withFinalSlash
  split
  · exact ⟨[], (List.append_nil _).symm, List.not_mem_nil⟩
  · obtain ⟨edges, opens, all⟩ := exists_opened_eq text.toList
    refine ⟨edges ++ ['/'], ?_, fun colon => ?_⟩
    · rw [String.toList_append, show "/".toList = ['/'] from rfl, cleaned_concat (by decide), opens,
        List.append_assoc]
    · rcases List.mem_append.mp colon with edge | slash
      · cases all _ edge
      · cases List.mem_singleton.mp slash

theorem cleaned_concat_slash {text : List Char} (filled : text ≠ [])
    (plain : ∀ c ∈ text.getLast?, isEdge c = false) :
    cleaned (text ++ ['/']) = cleaned text ++ ['/'] := by
  obtain ⟨front, c, rfl⟩ := (List.eq_nil_or_concat' text).resolve_left filled
  have counts : isEdge c = false := plain c List.getLast?_concat
  rw [cleaned_concat (by decide), opened_concat counts, cleaned_concat counts]

/-! ## What a slash is added to -/

variable {text main inside rest : List Char} {scheme : String}

/-- What a slash behind a host and a path adds. -/
theorem slashAdded_concat (unmarked : ¬IsMarked text) (noSlash : text.getLast? ≠ some '/')
    (ends : main.getLast? = text.getLast?) (hosted : main.dropWhile (isSlash true) ≠ []) :
    SlashAdded text (withoutSlash true (namedPath main))
      (withoutSlash true (namedPath main ++ ['/'])) := by
  cases path : namedPath main with
  | nil =>
      -- Then the slash is the one in front of the path.
      refine .closed unmarked (fun backslash => ?_) rfl
      have last : (main.dropWhile (isSlash true)).getLast? = some '\\' := by
        rw [getLast?_of_suffix (List.dropWhile_suffix _) hosted, ends, backslash]
      cases not_isSlash_of_namedPath path _ (List.mem_of_getLast? last)
  | cons c rest =>
      have slash : isSlash true c = true := isSlash_of_namedPath path
      have last : (c :: rest).getLast? = text.getLast? :=
        (getLast?_of_suffix (path ▸ namedPath_suffix main) (List.cons_ne_nil c rest)).trans ends
      have added : withoutSlash true (c :: rest ++ ['/']) = rest ++ ['/'] := if_pos slash
      rw [added, show withoutSlash true (c :: rest) = rest from if_pos slash]
      by_cases backslash : text.getLast? = some '\\'
      · refine .backslash unmarked backslash
          (lastSegment_of_suffix (List.suffix_cons c rest) fun d mem => ?_)
        rw [last, backslash] at mem
        cases mem
        rfl
      · refine .named unmarked backslash fun none => ?_
        -- Then the text would end with a slash of one kind.
        have other {d : Char} (ending : text.getLast? = some d) : ¬isSlash true d = true := by
          simp only [isSlash, Bool.true_and, Bool.or_eq_true, beq_iff_eq]
          rintro (rfl | rfl)
          · exact noSlash ending
          · exact backslash ending
        rcases List.eq_nil_or_concat' rest with rfl | ⟨front, d, rfl⟩
        · exact other last.symm slash
        · rw [← List.cons_append, List.getLast?_concat] at last
          exact other last.symm (lastSegment_eq_nil_iff.mp none d List.getLast?_concat)

/-- A text that ends with a slash names a path that does, if any. -/
theorem slashAdded_of_slash (cut : cutScheme? (cleaned text) = some (scheme, inside))
    (unmarked : ¬IsMarked text) (closed : text.getLast? = some '/') :
    SlashAdded text (pathBehind inside) (pathBehind inside) := by
  have last : (cleaned text).getLast? = some '/' := by
    rw [getLast?_cleaned fun c mem => ?_, closed]
    rw [closed] at mem
    cases mem
    rfl
  have suffix : pathBehind inside <:+ cleaned text := by
    rw [pathBehind, main_of_not_isMarked (mt (isMarked_of_cut cut).mp unmarked)]
    exact ((withoutSlash_suffix _).trans (namedPath_suffix inside)).trans (suffix_of_cut cut)
  refine .closed unmarked (by simp [closed]) (lastSegment_of_suffix suffix fun c mem => ?_)
  rw [last] at mem
  cases mem
  rfl

/-- Behind a query or a fragment a slash is added to neither authority nor path. -/
theorem behind_append_of_marked (marked : IsMarked inside) (rest : List Char) :
    authorityBehind (inside ++ rest) = authorityBehind inside ∧
      pathBehind (inside ++ rest) = pathBehind inside := by
  have same := AddressParts.main_append_of_marked marked rest
  exact ⟨by rw [authorityBehind, same, authorityBehind], by rw [pathBehind, same, pathBehind]⟩

/-- Without query and fragment a slash is added to the path. -/
theorem behind_concat_slash (unmarked : ¬IsMarked inside)
    (hosted : inside.dropWhile (isSlash true) ≠ []) :
    authorityBehind (inside ++ ['/']) = authorityBehind inside ∧
      pathBehind (inside ++ ['/']) = withoutSlash true (namedPath inside ++ ['/']) := by
  have whole : (AddressParts.ofText (inside ++ ['/'])).main = inside ++ ['/'] :=
    main_of_not_isMarked (by simpa [IsMarked] using unmarked)
  have named := named_concat_slash hosted
  constructor
  · rw [authorityBehind, whole, named.1, authorityBehind, main_of_not_isMarked unmarked]
  · rw [pathBehind, whole, named.2]

/-- A text with a slash at its end has the scheme and the authority of the text, and a path with a
slash added. -/
theorem exists_cut_of_withFinalSlash {text : String}
    (cut : cutScheme? (cleaned (withFinalSlash text).toList) = some (scheme, rest))
    (hosted : (AddressParts.ofText rest).main.dropWhile (isSlash true) ≠ [])
    (plain : ¬IsMarked text.toList → ∀ c ∈ text.toList.getLast?, isEdge c = false) :
    ∃ inside, cutScheme? (cleaned text.toList) = some (scheme, inside) ∧
      authorityBehind rest = authorityBehind inside ∧
      SlashAdded text.toList (pathBehind inside) (pathBehind rest) := by
  by_cases marked : IsMarked text.toList
  · obtain ⟨behind, added, noColon⟩ := cleaned_withFinalSlash text
    obtain ⟨inside, found, rfl⟩ := cutScheme?_append (added ▸ cut) noColon
    obtain ⟨authority, path⟩ :=
      behind_append_of_marked ((isMarked_of_cut found).mpr marked) behind
    exact ⟨inside, found, authority, path ▸ .marked marked⟩
  by_cases closed : text.toList.getLast? = some '/'
  · rw [withFinalSlash, if_pos closed] at cut
    exact ⟨rest, cut, rfl, slashAdded_of_slash cut marked closed⟩
  · have spelled : (withFinalSlash text).toList = text.toList ++ ['/'] := by
      rw [withFinalSlash, if_neg closed, String.toList_append]
      rfl
    have filled : text.toList ≠ [] := fun none => by
      rw [spelled, none] at cut
      cases cut
    rw [spelled, cleaned_concat_slash filled (plain marked)] at cut
    obtain ⟨inside, found, rfl⟩ := cutScheme?_append cut (by decide)
    have unmarked := mt (isMarked_of_cut found).mp marked
    have hosted : inside.dropWhile (isSlash true) ≠ [] := fun none => hosted (by
      rw [main_of_not_isMarked (by simpa [IsMarked] using unmarked),
        List.dropWhile_append_of_pos (List.dropWhile_eq_nil_iff.mp none)]
      rfl)
    obtain ⟨authority, path⟩ := behind_concat_slash unmarked hosted
    refine ⟨inside, found, authority, ?_⟩
    have inner : inside ≠ [] := fun none => hosted (by rw [none, List.dropWhile_nil])
    have last := (getLast?_of_suffix (suffix_of_cut found) inner).trans
      (getLast?_cleaned (plain marked))
    rw [path, pathBehind, main_of_not_isMarked unmarked]
    exact slashAdded_concat marked closed last hosted

/-! ## Addresses with a slash added -/

/-- The scheme of an address over the web. -/
theorem scheme_of_isWeb {address : WebAddress} (web : address.isWeb = true) :
    address.scheme = "http" ∨ address.scheme = "https" := by
  simpa [isWeb] using web

/-- An address over the web is read from more than slashes. -/
theorem hosted_of_read {text : String} {address : WebAddress}
    (found : read text = .ok address) (web : address.isWeb = true)
    (cut : cutScheme? (cleaned text.toList) = some (address.scheme, rest)) :
    (AddressParts.ofText rest).main.dropWhile (isSlash true) ≠ [] := fun none => by
  have scheme := scheme_of_isWeb web
  rw [read_of_cut cut scheme, authorityBehind,
    read_namedAuthority_of_slashes (isHostScheme_of_web scheme) none] at found
  cases found

/-- An address is read from another text as well that names the same scheme and authority. -/
theorem exists_read_of_same {text other : String} {base : WebAddress}
    (found : read other = .ok base) (web : base.isWeb = true)
    (cut : cutScheme? (cleaned other.toList) = some (base.scheme, rest))
    (cut' : cutScheme? (cleaned text.toList) = some (base.scheme, inside))
    (same : authorityBehind rest = authorityBehind inside) :
    ∃ given, read text = .ok given ∧ base.scheme = given.scheme ∧
      base.authority? = given.authority? ∧
      given.path = .segments (readSegments true (pathBehind inside)) ∧
      base.path = .segments (readSegments true (pathBehind rest)) := by
  have scheme := scheme_of_isWeb web
  rw [read_of_cut cut scheme, same] at found
  rw [read_of_cut cut' scheme]
  cases named : Authority.read base.scheme true (authorityBehind inside) with
  | error e =>
      rw [named] at found
      cases found
  | ok authority =>
      rw [named] at found
      have whole := Except.ok.inj found
      exact ⟨_, rfl, rfl, (congrArg WebAddress.authority? whole).symm, rfl,
        (congrArg WebAddress.path whole).symm⟩

/-- **What a text with a slash at its end is read as**: the same host, and a path with a slash
added. -/
theorem read_withFinalSlash {text : String} {base : WebAddress}
    (found : read (withFinalSlash text) = .ok base) (web : base.isWeb = true)
    (plain : ¬IsMarked text.toList → ∀ c ∈ text.toList.getLast?, isEdge c = false) :
    ∃ given path behind, read text = .ok given ∧ base.scheme = given.scheme ∧
      base.authority? = given.authority? ∧
      given.path = .segments (readSegments true path) ∧
      base.path = .segments (readSegments true behind) ∧ SlashAdded text.toList path behind := by
  obtain ⟨rest, cut⟩ := exists_cut_of_read found
  obtain ⟨inside, cut', same, added⟩ :=
    exists_cut_of_withFinalSlash cut (hosted_of_read found web cut) plain
  obtain ⟨given, reads, scheme, authority, path, behind⟩ :=
    exists_read_of_same found web cut cut' same
  exact ⟨given, _, _, reads, scheme, authority, path, behind, added⟩

end WebAddress

/-! ## Below the path -/

/-- The segments of a path end with a slash behind what is named if the text keeps the path. -/
theorem SlashAdded.keepsPath_iff {text path behind : List Char}
    (added : SlashAdded text path behind) : ∃ front last,
      readSegments true behind = front ++ [last] ∧
      (withFinalSlash (AddressPath.segments (readSegments true path)).render =
        (AddressPath.segments front).render ++ "/" ↔
          KeepsPath text (.segments (readSegments true path))) := by
  cases added with
  | marked marked =>
      obtain ⟨front, last, segments, whole⟩ := exists_readSegments_eq path
      refine ⟨front, last, segments, ?_⟩
      rw [segments, KeepsPath, if_pos marked, getLast?_render_concat front whole,
        withFinalSlash_render_concat_iff front whole]
  | closed unmarked other ends =>
      obtain ⟨front, segments, -⟩ := readSegments_of_lastSegment ends
      refine ⟨front, "", segments, ?_⟩
      rw [segments, KeepsPath, if_neg unmarked, render_concat_empty]
      exact iff_of_true (withFinalSlash_append_slash _) other
  | named unmarked other name =>
      obtain ⟨front, segments, slash⟩ := withFinalSlash_render name
      refine ⟨front, "", segments, ?_⟩
      rw [slash, KeepsPath, if_neg unmarked]
      exact iff_of_true (render_concat_empty front) other
  | backslash unmarked last ends =>
      obtain ⟨front, segments, segments'⟩ := readSegments_of_lastSegment ends
      refine ⟨front ++ [""], "", by rw [segments', List.append_assoc]; rfl, ?_⟩
      rw [segments, KeepsPath, if_neg unmarked, render_concat_empty, withFinalSlash_append_slash]
      refine iff_of_false (fun same => ?_) (not_not_intro last)
      have lengths := congrArg String.length same
      simp [String.length_append] at lengths

namespace WebAddress

/-- What stands below an address over the web takes the place of the last segment of its path. -/
theorem resolve_of_web {base : WebAddress} {front : List String} {last : String}
    (web : base.isWeb = true) (path : base.path = .segments (front ++ [last])) (name : String) :
    base.resolve ["api", name] = .ok (base.below (front ++ ["api", name])) := by
  have noFile : base.scheme ≠ "file" := by
    rcases scheme_of_isWeb web with same | same <;> rw [same] <;> decide
  rw [resolve, path, below]
  simp only [noFile, false_and, if_false, List.dropLast_concat]

/-- A place below an address that a text names: it is at the same host, and it is below all of the
path exactly if the text keeps the path. -/
structure IsPlaceOf (place given : WebAddress) (text : List Char) (name : String) : Prop where
  scheme : place.scheme = given.scheme
  authority : place.authority? = given.authority?
  query : place.query? = none
  fragment : place.fragment? = none
  path_iff : place.path.render = withFinalSlash given.path.render ++ ("api/" ++ name) ↔
    KeepsPath text given.path

end WebAddress

namespace Service

variable {url : String} {service : Service}

theorem ofUrl_eq_ok_iff : ofUrl url = .ok service ↔
    WebAddress.read (withFinalSlash (Text.trimmed url)) = .ok service.base := by
  unfold ofUrl
  cases WebAddress.read (withFinalSlash (Text.trimmed url)) with
  | error e => exact iff_of_false nofun nofun
  | ok base => simp only [Except.ok.injEq, ← Service.mk.injEq]

/-- The places of a service are told from the address that its user named. -/
theorem exists_isPlaceOf (found : ofUrl url = .ok service) (web : service.base.isWeb = true)
    (plain : ¬IsMarked (Text.trimmed url).toList →
      ∀ c ∈ (Text.trimmed url).toList.getLast?, WebAddress.isEdge c = false) :
    ∃ given, WebAddress.read (Text.trimmed url) = .ok given ∧ ∀ name,
      ∃ place, service.place name = .ok place ∧
        place.IsPlaceOf given (Text.trimmed url).toList name := by
  obtain ⟨given, path, behind, named, scheme, authority, segments, segments', added⟩ :=
    WebAddress.read_withFinalSlash (ofUrl_eq_ok_iff.mp found) web plain
  obtain ⟨front, last, split, keeps⟩ := added.keepsPath_iff
  refine ⟨given, named, fun name => ?_⟩
  have resolved := WebAddress.resolve_of_web web (segments'.trans (congrArg _ split)) name
  refine ⟨service.base.below (front ++ ["api", name]), by rw [place, resolved],
    scheme, authority, rfl, rfl, ?_⟩
  rw [← segments] at keeps
  have below := calc (service.base.below (front ++ ["api", name])).path.render
    _ = (AddressPath.segments front).render ++ ("/" ++ "api") ++ ("/" ++ name) := by
        rw [← render_concat, ← render_concat, List.append_assoc]
        rfl
    _ = (AddressPath.segments front).render ++ "/" ++ (("api" ++ "/") ++ name) := by
        simp only [String.append_assoc]
  rw [below, ← keeps]
  exact (String.append_left_inj _).trans eq_comm

/-- **The places of a service stand below the path that its user named**, and at the same host: a
listing and a generation ask there.  The path is kept exactly if a slash can be added to it. -/
theorem places_below_named (found : ofUrl url = .ok service) (web : service.base.isWeb = true)
    (plain : ¬IsMarked (Text.trimmed url).toList →
      ∀ c ∈ (Text.trimmed url).toList.getLast?, WebAddress.isEdge c = false) :
    ∃ given, WebAddress.read (Text.trimmed url) = .ok given ∧
      (∃ place, place.IsPlaceOf given (Text.trimmed url).toList "patterns" ∧
        ∀ network past, (service.list network past).1 = (send network past (.get place)).1) ∧
      ∃ place, place.IsPlaceOf given (Text.trimmed url).toList "generate" ∧
        ∀ network past request, (service.generate network past request).1 =
          (send network past (.post place request.body)).1 := by
  obtain ⟨given, named, places⟩ := exists_isPlaceOf found web plain
  obtain ⟨listing, found, below⟩ := places "patterns"
  obtain ⟨generation, found', below'⟩ := places "generate"
  exact ⟨given, named, ⟨listing, below, list_fst_of_place found⟩,
    generation, below', generate_fst_of_place found'⟩

/-- A path without a slash at its end is kept. -/
theorem places_below_prefix : ∃ service given place,
    ofUrl "http://[::1]/a" = .ok service ∧ service.base.isWeb = true ∧
    WebAddress.read (Text.trimmed "http://[::1]/a") = .ok given ∧
    place.path.render = withFinalSlash given.path.render ++ "api/patterns" ∧
    ∀ network past, (service.list network past).1 = (send network past (.get place)).1 := by
  let authority : Authority := ⟨"", none, .ipv6 [0, 0, 0, 0, 0, 0, 0, 1], none⟩
  let service : Service := ⟨⟨"http", authority, .segments ["a", ""], none, none⟩⟩
  have found : ofUrl "http://[::1]/a" = .ok service := ofUrl_eq_ok_iff.mpr (by decide +kernel)
  have last : (Text.trimmed "http://[::1]/a").toList.getLast? = some 'a' := by decide +kernel
  obtain ⟨given, named, ⟨place, below, asked⟩, -⟩ :=
    places_below_named found (by decide +kernel) fun _ c mem => by
      rw [last] at mem
      cases mem
      decide
  have keeps : KeepsPath (Text.trimmed "http://[::1]/a").toList given.path := by
    rw [KeepsPath, if_neg (by decide +kernel), last]
    decide
  exact ⟨service, given, place, found, by decide +kernel, named, below.path_iff.mpr keeps, asked⟩

/-- **A slash behind a query is none behind the path**: the last segment of the path is lost, and
what is asked for is not below what was named. -/
theorem path_lost_before_query : ∃ service given place,
    ofUrl "http://[::1]/a?x" = .ok service ∧ service.base.isWeb = true ∧
    WebAddress.read (Text.trimmed "http://[::1]/a?x") = .ok given ∧
    given.path.render = "/a" ∧ place.path.render = "/api/patterns" ∧
    place.path.render ≠ withFinalSlash given.path.render ++ "api/patterns" ∧
    ∀ network, ∃ hops, (service.list network []).1 =
        ⟨.get place, network [] (.get place)⟩ :: hops ∧
      Hops ⟨.get place, network [] (.get place)⟩ hops := by
  let authority : Authority := ⟨"", none, .ipv6 [0, 0, 0, 0, 0, 0, 0, 1], none⟩
  let service : Service := ⟨⟨"http", authority, .segments ["a"], some "x/", none⟩⟩
  let place : WebAddress := ⟨"http", authority, .segments ["api", "patterns"], none, none⟩
  refine ⟨service, ⟨"http", authority, .segments ["a"], some "x", none⟩, place,
    ofUrl_eq_ok_iff.mpr (by decide +kernel), by decide +kernel, by decide +kernel,
    by decide +kernel, by decide +kernel, by decide +kernel, fun network => ?_⟩
  have found : service.place "patterns" = .ok place := rfl
  rw [list_fst_of_place found]
  exact exists_hops_of_isSendable network [] (by decide +kernel)

end Service

end PatternRefinement
