import Mathlib.Data.List.Forall2
import Mathlib.Data.Setoid.Basic
import Signoff.Fetch.ContentType
import Signoff.Proofs.Text.Blank

namespace Signoff.ContentType

/-! What an allow-list accepts is what one of its patterns accepts, and a pattern looks at nothing
but the media type: neither at its case, nor at white space around it, nor at its parameters. -/

structure Cut (stop : Char) (chars front rest : List Char) : Prop where
  whole : chars = front ++ rest
  free : stop ∉ front
  starts : ∀ char ∈ rest.head?, char = stop

theorem Cut.takeWhile_eq {stop : Char} {chars front rest : List Char}
    (hcut : Cut stop chars front rest) : chars.takeWhile (· ≠ stop) = front := by
  have hnone : rest.takeWhile (· ≠ stop) = [] := by
    cases rest with
    | nil => rfl
    | cons char rest =>
        have hchar : char = stop := hcut.starts char rfl
        exact List.takeWhile_cons_of_neg (by simp [hchar])
  rw [hcut.whole, List.takeWhile_append_of_pos, hnone, List.append_nil]
  intro char hmem
  exact decide_eq_true fun heq => hcut.free (heq ▸ hmem)

theorem Cut.prefix_of_mem {stop : Char} {chars front rest : List Char}
    (hcut : Cut stop chars front rest) (hmem : stop ∈ chars) : front ++ [stop] <+: chars := by
  rw [hcut.whole, List.mem_append, or_iff_right hcut.free] at hmem
  cases rest with
  | nil => cases hmem
  | cons char tail =>
      have hchar : char = stop := hcut.starts char rfl
      exact ⟨tail, by rw [hcut.whole, hchar, List.append_assoc, List.singleton_append]⟩

theorem cut_takeWhile (stop : Char) (chars : List Char) :
    Cut stop chars (chars.takeWhile (· ≠ stop)) (chars.dropWhile (· ≠ stop)) where
  whole := List.takeWhile_append_dropWhile.symm
  free hmem := by simpa using List.mem_takeWhile_imp hmem
  starts char hhead := by
    have hhalt := List.head?_dropWhile_not (· ≠ stop) chars
    rw [Option.mem_def.mp hhead] at hhalt
    simpa using hhalt

/-- The media type that a header names: all before the parameters, without white space around. -/
def HasMedia (header : String) (media : List Char) : Prop :=
  ∃ front rest, Cut ';' header.toList front rest ∧ Text.Trimmed front media

theorem hasMedia_iff {header : String} {media : List Char} :
    HasMedia header media ↔ Text.trimChars (header.toList.takeWhile (· ≠ ';')) = media := by
  constructor
  · rintro ⟨front, rest, hcut, htrimmed⟩
    rw [hcut.takeWhile_eq]
    exact Text.trimmed_iff.mp htrimmed
  · intro hmedia
    exact ⟨_, _, cut_takeWhile ';' header.toList, Text.trimmed_iff.mpr hmedia⟩

theorem toList_mediaType {header : String} {media : List Char} (hmedia : HasMedia header media) :
    (mediaType header).toList = media.map Char.toLower := by
  rw [← hasMedia_iff.mp hmedia, mediaType, Text.asciiLowercase, String.toList_map, Text.trim,
    String.toList_ofList, String.toList_ofList]

theorem toList_lowered {pattern : String} {core : List Char}
    (hcore : Text.Trimmed pattern.toList core) :
    (Text.asciiLowercase (Text.trim pattern)).toList = core.map Char.toLower := by
  rw [← Text.trimmed_iff.mp hcore, Text.asciiLowercase, String.toList_map, Text.trim,
    String.toList_ofList]

theorem wildcard?_eq_some_iff {pattern : String} {kind : List Char} :
    wildcard? pattern = some kind ↔ pattern.toList = kind ++ ['/', '*'] := by
  rw [wildcard?]
  split
  · next rest hreverse =>
      have hpattern : pattern.toList = rest.reverse ++ ['/', '*'] := by
        rw [← List.reverse_reverse pattern.toList, hreverse]
        simp
      rw [hpattern, Option.some.injEq, List.append_cancel_right_eq]
  · next hnone =>
      refine ⟨fun hsome => absurd hsome (Option.some_ne_none _).symm, fun hpattern => ?_⟩
      exact absurd (by rw [hpattern, List.reverse_append]; rfl) (hnone kind.reverse)

theorem wildcard?_eq_none_iff {pattern : String} :
    wildcard? pattern = none ↔ ¬ ['/', '*'] <:+ pattern.toList := by
  rw [Option.eq_none_iff_forall_ne_some]
  constructor
  · rintro hnone ⟨kind, hkind⟩
    exact hnone kind (wildcard?_eq_some_iff.mpr hkind.symm)
  · intro hsuffix kind hkind
    exact hsuffix ⟨kind, (wildcard?_eq_some_iff.mp hkind).symm⟩

theorem topLevel?_eq_some_iff {mediaType : String} {kind : List Char} :
    topLevel? mediaType = some kind ↔ '/' ∉ kind ∧ kind ++ ['/'] <+: mediaType.toList := by
  have hcut := cut_takeWhile '/' mediaType.toList
  rw [topLevel?]
  constructor
  · intro htop
    split at htop
    · next hslash =>
        cases htop
        exact ⟨hcut.free, hcut.prefix_of_mem hslash⟩
    · cases htop
  · rintro ⟨hfree, rest, hrest⟩
    have hfront : Cut '/' mediaType.toList kind ('/' :: rest) :=
      ⟨by rw [← hrest]; simp, hfree, by simp⟩
    have hslash : '/' ∈ mediaType.toList := by
      rw [hfront.whole]
      exact List.mem_append_right kind List.mem_cons_self
    rw [if_pos hslash, hfront.takeWhile_eq]

/-- How a pattern without white space around takes a media type. -/
inductive Takes (core media : List Char) : Prop
  | wildcard {kind : List Char} (form : core = kind ++ ['/', '*']) (single : '/' ∉ kind)
      (starts : (kind ++ ['/']).map Char.toLower <+: media.map Char.toLower) : Takes core media
  | exact (form : ¬ ['/', '*'] <:+ core)
      (same : media.map Char.toLower = core.map Char.toLower) : Takes core media

theorem wildcard_lowered {core kind : List Char} :
    core.map Char.toLower = kind ++ ['/', '*'] ↔
      ∃ source, core = source ++ ['/', '*'] ∧ source.map Char.toLower = kind := by
  have hending : ∀ ending : List Char,
      ending.map Char.toLower = ['/', '*'] ↔ ending = ['/', '*'] :=
    fun ending => Text.map_toLower_eq_iff (by simp)
  simp only [List.map_eq_append_iff, hending]
  constructor
  · rintro ⟨source, ending, hcore, hsource, rfl⟩
    exact ⟨source, hcore, hsource⟩
  · rintro ⟨source, hcore, hsource⟩
    exact ⟨source, _, hcore, hsource, rfl⟩

theorem accepts_iff {pattern header : String} {core media : List Char}
    (hcore : Text.Trimmed pattern.toList core) (hmedia : HasMedia header media) :
    accepts pattern (mediaType header) = true ↔ Takes core media := by
  rw [accepts]
  split
  · next kind hwildcard =>
      -- The wildcard shows in lower case exactly if it is there.
      rw [wildcard?_eq_some_iff, toList_lowered hcore, wildcard_lowered] at hwildcard
      obtain ⟨kind, rfl, rfl⟩ := hwildcard
      have hslash : (kind ++ ['/']).map Char.toLower = kind.map Char.toLower ++ ['/'] :=
        List.map_append
      rw [beq_iff_eq, topLevel?_eq_some_iff, toList_mediaType hmedia,
        Text.mem_map_toLower (by decide), ← hslash]
      constructor
      · rintro ⟨hsingle, hstarts⟩
        exact .wildcard rfl hsingle hstarts
      · intro htakes
        cases htakes with
        | wildcard form single starts =>
            cases List.append_cancel_right form
            exact ⟨single, starts⟩
        | exact form same => exact absurd ⟨kind, rfl⟩ form
  · next hexact =>
      have hform : ¬ ['/', '*'] <:+ core := by
        rintro ⟨kind, rfl⟩
        rw [wildcard?_eq_none_iff, toList_lowered hcore] at hexact
        exact hexact ⟨kind.map Char.toLower, (wildcard_lowered.mpr ⟨kind, rfl, rfl⟩).symm⟩
      rw [beq_iff_eq, ← String.toList_inj, toList_mediaType hmedia, toList_lowered hcore]
      constructor
      · exact fun hsame => .exact hform hsame
      · intro htakes
        cases htakes with
        | wildcard form single starts => exact absurd ⟨_, form.symm⟩ hform
        | exact form same => exact same

theorem isAny_iff {pattern : String} :
    isAny pattern = true ↔ Text.Trimmed pattern.toList ['*', '/', '*'] := by
  rw [isAny, beq_iff_eq, ← String.toList_inj, Text.trim, String.toList_ofList, Text.trimmed_iff]
  rfl

/-- Other case, white space around, or one more parameter. -/
inductive HeaderEdit : String → String → Prop
  | recased {header other : String}
      (same : header.toList.map Char.toLower = other.toList.map Char.toLower) :
      HeaderEdit header other
  | padded {before front after rest : String} (blankBefore : Text.Blank before)
      (blankAfter : Text.Blank after)
      (cut : Cut ';' (front ++ rest).toList front.toList rest.toList) :
      HeaderEdit (front ++ rest) (before ++ front ++ after ++ rest)
  | extended (header parameters : String) : HeaderEdit header (header ++ ";" ++ parameters)

inductive PatternEdit : String → String → Prop
  | recased {pattern other : String}
      (same : pattern.toList.map Char.toLower = other.toList.map Char.toLower) :
      PatternEdit pattern other
  | padded {before after : String} (pattern : String) (blankBefore : Text.Blank before)
      (blankAfter : Text.Blank after) : PatternEdit pattern (before ++ pattern ++ after)

def SameHeader : String → String → Prop := Relation.EqvGen HeaderEdit

def SamePattern : String → String → Prop := Relation.EqvGen PatternEdit

theorem PatternEdit.lowered_eq {pattern other : String} (hedit : PatternEdit pattern other) :
    Text.asciiLowercase (Text.trim pattern) = Text.asciiLowercase (Text.trim other) := by
  rw [← String.toList_inj, toList_lowered (Text.trimmed_trimChars _),
    toList_lowered (Text.trimmed_trimChars _)]
  cases hedit with
  | recased same => rw [← Text.trimChars_map_toLower, same, Text.trimChars_map_toLower]
  | padded _ blankBefore blankAfter =>
      rw [String.toList_append, String.toList_append, Text.trimChars_pad blankBefore blankAfter]

theorem Cut.lowered {chars front rest : List Char} (hcut : Cut ';' chars front rest) :
    Cut ';' (chars.map Char.toLower) (front.map Char.toLower) (rest.map Char.toLower) where
  whole := by rw [hcut.whole, List.map_append]
  free hmem := hcut.free ((Text.mem_map_toLower (by decide)).mp hmem)
  starts := by
    intro char hhead
    rw [List.head?_map, Option.mem_def, Option.map_eq_some_iff] at hhead
    obtain ⟨first, hfirst, rfl⟩ := hhead
    exact (Text.toLower_eq_iff (by decide)).mpr (hcut.starts first hfirst)

theorem Cut.padded {chars front rest before after : List Char} (hcut : Cut ';' chars front rest)
    (hbefore : ∀ char ∈ before, Text.isBlank char = true)
    (hafter : ∀ char ∈ after, Text.isBlank char = true) :
    Cut ';' (before ++ front ++ after ++ rest) (before ++ front ++ after) rest where
  whole := rfl
  free := by
    have hsemicolon : Text.isBlank ';' = false := by decide
    simp only [List.mem_append]
    rintro ((hmem | hmem) | hmem)
    · exact absurd (hbefore _ hmem) (Bool.eq_false_iff.mp hsemicolon)
    · exact hcut.free hmem
    · exact absurd (hafter _ hmem) (Bool.eq_false_iff.mp hsemicolon)
  starts := hcut.starts

theorem Cut.extended {stop : Char} {chars front rest : List Char} (hcut : Cut stop chars front rest)
    (more : List Char) : Cut stop (chars ++ stop :: more) front (rest ++ stop :: more) where
  whole := by rw [hcut.whole, List.append_assoc]
  free := hcut.free
  starts char hhead := by
    cases rest with
    | nil => exact (Option.some.inj hhead).symm
    | cons first rest => exact hcut.starts char hhead

theorem lowered_header {header : String} {front rest : List Char}
    (hcut : Cut ';' header.toList front rest) :
    (mediaType header).toList = (Text.trimChars front).map Char.toLower :=
  toList_mediaType ⟨front, rest, hcut, Text.trimmed_trimChars front⟩

theorem HeaderEdit.mediaType_eq {header other : String} (hedit : HeaderEdit header other) :
    mediaType header = mediaType other := by
  rw [← String.toList_inj]
  cases hedit with
  | recased same =>
      have hcut := cut_takeWhile ';' header.toList
      have hother := cut_takeWhile ';' other.toList
      -- No letter has a semicolon for its lower case: both are cut at the same place.
      have hfront := hcut.lowered.takeWhile_eq
      rw [same, hother.lowered.takeWhile_eq] at hfront
      rw [lowered_header hcut, lowered_header hother, ← Text.trimChars_map_toLower, ← hfront,
        Text.trimChars_map_toLower]
  | padded blankBefore blankAfter cut =>
      have hother := cut.padded blankBefore blankAfter
      simp only [← String.toList_append] at hother
      rw [lowered_header cut, lowered_header hother]
      simp only [String.toList_append, Text.trimChars_pad blankBefore blankAfter]
  | extended _ parameters =>
      have hcut := cut_takeWhile ';' header.toList
      have hwhole : (header ++ ";" ++ parameters).toList =
          header.toList ++ ';' :: parameters.toList := by
        rw [String.toList_append, String.toList_append, List.append_assoc]
        rfl
      have hother := hcut.extended parameters.toList
      rw [← hwhole] at hother
      rw [lowered_header hcut, lowered_header hother]

theorem SamePattern.lowered_eq {pattern other : String} (hsame : SamePattern pattern other) :
    Text.asciiLowercase (Text.trim pattern) = Text.asciiLowercase (Text.trim other) :=
  @Setoid.eqvGen_le _ _ (Setoid.ker fun pattern => Text.asciiLowercase (Text.trim pattern))
    (fun _ _ hedit => hedit.lowered_eq) _ _ hsame

theorem SameHeader.mediaType_eq {header other : String} (hsame : SameHeader header other) :
    mediaType header = mediaType other :=
  @Setoid.eqvGen_le _ _ (Setoid.ker mediaType) (fun _ _ hedit => hedit.mediaType_eq) _ _ hsame

theorem isAny_iff_lowered {pattern : String} :
    isAny pattern = true ↔ Text.asciiLowercase (Text.trim pattern) = "*/*" := by
  rw [isAny_iff, Text.trimmed_iff, ← String.toList_inj, toList_lowered (Text.trimmed_trimChars _)]
  exact (Text.map_toLower_eq_iff (by simp)).symm

theorem SamePattern.isAny_eq {pattern other : String} (hsame : SamePattern pattern other) :
    isAny pattern = isAny other := by
  rw [Bool.eq_iff_iff, isAny_iff_lowered, isAny_iff_lowered, hsame.lowered_eq]

theorem SamePattern.accepts_eq {pattern other : String} (hsame : SamePattern pattern other)
    (mediaType : String) : accepts pattern mediaType = accepts other mediaType := by
  rw [accepts, accepts, hsame.lowered_eq]

def grants (header : Option String) (pattern : String) : Bool :=
  isAny pattern || header.any (accepts pattern <| mediaType ·)

theorem allowed_eq (patterns : List String) (header : Option String) :
    allowed patterns header = (patterns.isEmpty || patterns.any (grants header)) := by
  rw [Bool.eq_iff_iff]
  cases header <;> simp [allowed, grants, and_or_left, exists_or, or_assoc]

theorem allowed_iff {patterns : List String} (hne : patterns ≠ []) {header : Option String} :
    allowed patterns header = true ↔ ∃ pattern ∈ patterns, grants header pattern = true := by
  rw [allowed_eq, List.isEmpty_eq_false_iff.mpr hne, Bool.false_or, List.any_eq_true]

theorem allowed_singleton (pattern : String) (header : Option String) :
    allowed [pattern] header = grants header pattern := by
  rw [Bool.eq_iff_iff, allowed_iff (List.cons_ne_nil _ _)]
  simp

theorem allowed_iff_any {patterns : List String} (hne : patterns ≠ []) (header : Option String) :
    allowed patterns header = true ↔ ∃ pattern ∈ patterns, allowed [pattern] header = true := by
  simp only [allowed_iff hne, allowed_singleton]

theorem grants_present {pattern header : String} {core media : List Char}
    (hcore : Text.Trimmed pattern.toList core) (hmedia : HasMedia header media) :
    grants (some header) pattern = true ↔ core = ['*', '/', '*'] ∨ Takes core media := by
  rw [grants, Bool.or_eq_true, isAny_iff, Text.trimmed_iff, Text.trimmed_iff.mp hcore,
    Option.any_some, accepts_iff hcore hmedia]

theorem allowed_wildcard_iff {pattern header : String} {kind media : List Char}
    (hpattern : Text.Trimmed pattern.toList (kind ++ ['/', '*'])) (hsingle : '/' ∉ kind)
    (hany : kind ≠ ['*']) (hmedia : HasMedia header media) :
    allowed [pattern] (some header) = true ↔
      (kind ++ ['/']).map Char.toLower <+: media.map Char.toLower := by
  rw [allowed_singleton, grants_present hpattern hmedia]
  constructor
  · rintro (hcore | htakes)
    · have hkind : kind ++ ['/', '*'] = ['*'] ++ ['/', '*'] := hcore
      exact absurd (List.append_cancel_right hkind) hany
    · cases htakes with
      | wildcard form single starts =>
          cases List.append_cancel_right form
          exact starts
      | exact form same => exact absurd ⟨kind, rfl⟩ form
  · exact fun hstarts => .inr (.wildcard rfl hsingle hstarts)

theorem allowed_exact_iff {pattern header : String} {core media : List Char}
    (hpattern : Text.Trimmed pattern.toList core) (hexact : ¬ ['/', '*'] <:+ core)
    (hmedia : HasMedia header media) :
    allowed [pattern] (some header) = true ↔ media.map Char.toLower = core.map Char.toLower := by
  rw [allowed_singleton, grants_present hpattern hmedia]
  constructor
  · rintro (rfl | htakes)
    · exact absurd ⟨['*'], rfl⟩ hexact
    · cases htakes with
      | wildcard form single starts => exact absurd ⟨_, form.symm⟩ hexact
      | exact form same => exact same
  · exact fun hsame => .inr (.exact hexact hsame)

theorem allowed_absent_iff {patterns : List String} (hne : patterns ≠ []) :
    allowed patterns none = true ↔
      ∃ pattern ∈ patterns, Text.Trimmed pattern.toList ['*', '/', '*'] := by
  simp [allowed_iff hne, grants, isAny_iff]

theorem allowed_mono {patterns others : List String} (hne : patterns ≠ [])
    (hsubset : patterns ⊆ others) {header : Option String}
    (hallowed : allowed patterns header = true) : allowed others header = true := by
  obtain ⟨pattern, hmem, hgrants⟩ := (allowed_iff hne).mp hallowed
  have hothers : others ≠ [] := List.ne_nil_of_mem (hsubset hmem)
  exact (allowed_iff hothers).mpr ⟨pattern, hsubset hmem, hgrants⟩

theorem SamePattern.grants_eq {pattern other : String} (hsame : SamePattern pattern other)
    (header : Option String) : grants header pattern = grants header other := by
  simp only [grants, hsame.isAny_eq, hsame.accepts_eq]

theorem grants_respelled {header other : String} (hsame : SameHeader header other) :
    grants (some other) = grants (some header) := by
  funext pattern
  simp only [grants, Option.any_some, hsame.mediaType_eq]

theorem allowed_respelled {patterns others : List String}
    (hsame : List.Forall₂ SamePattern patterns others) (header : Option String) :
    allowed others header = allowed patterns header := by
  have hany : others.any (grants header) = patterns.any (grants header) := by
    induction hsame with
    | nil => rfl
    | cons hfirst _ ih => rw [List.any_cons, List.any_cons, hfirst.grants_eq, ih]
  have hempty : others.isEmpty = patterns.isEmpty := by cases hsame <;> rfl
  rw [allowed_eq, allowed_eq, hempty, hany]

/-- Whatever the list, whatever the header: the patterns decide one by one, by the media type
alone, and none but the one for any type takes an absent header. -/
theorem allowed_patternwise {patterns : List String} (hne : patterns ≠ []) :
    (∀ header, allowed patterns header = true ↔
      ∃ pattern ∈ patterns, allowed [pattern] header = true) ∧
    (∀ others header, (∀ pattern, pattern ∈ others ↔ pattern ∈ patterns) →
      allowed others header = allowed patterns header) ∧
    (∀ others header, patterns ⊆ others → allowed patterns header = true →
      allowed others header = true) ∧
    (∀ others header, List.Forall₂ SamePattern patterns others →
      allowed others header = allowed patterns header) ∧
    (∀ header other, SameHeader header other →
      allowed patterns (some other) = allowed patterns (some header)) ∧
    (∀ header, ∃! media, HasMedia header media) ∧
    (∀ header media pattern core, HasMedia header media → Text.Trimmed pattern.toList core →
      (∀ kind, core = kind ++ ['/', '*'] → '/' ∉ kind → kind ≠ ['*'] →
        (allowed [pattern] (some header) = true ↔
          (kind ++ ['/']).map Char.toLower <+: media.map Char.toLower)) ∧
      (¬ ['/', '*'] <:+ core →
        (allowed [pattern] (some header) = true ↔
          media.map Char.toLower = core.map Char.toLower))) ∧
    ((∀ pattern ∈ patterns, ¬ Text.Trimmed pattern.toList ['*', '/', '*']) →
      allowed patterns none = false) := by
  refine ⟨allowed_iff_any hne, ?_, fun _ _ hsubset => allowed_mono hne hsubset,
    fun _ header hsame => allowed_respelled hsame header, ?_, ?_, ?_, ?_⟩
  · intro others header hsame
    have hsubset : patterns ⊆ others := fun pattern => (hsame pattern).mpr
    have hothers : others ≠ [] := fun hnil => hne (List.subset_nil.mp (hnil ▸ hsubset))
    rw [Bool.eq_iff_iff]
    exact ⟨allowed_mono hothers fun pattern => (hsame pattern).mp, allowed_mono hne hsubset⟩
  · intro header other hsame
    rw [allowed_eq, allowed_eq, grants_respelled hsame]
  · intro header
    exact ⟨_, hasMedia_iff.mpr rfl, fun media hmedia => (hasMedia_iff.mp hmedia).symm⟩
  · rintro header media pattern core hmedia hpattern
    constructor
    · rintro kind rfl hsingle hany
      exact allowed_wildcard_iff hpattern hsingle hany hmedia
    · exact fun hexact => allowed_exact_iff hpattern hexact hmedia
  · intro hnone
    rw [Bool.eq_false_iff, ne_eq, allowed_absent_iff hne]
    rintro ⟨pattern, hmem, hany⟩
    exact hnone pattern hmem hany

theorem allowed_patternwise_images :
    ["image/*", " Application/PDF "] ≠ [] ∧
      allowed ["image/*", " Application/PDF "] (some "IMAGE/png; q=1") = true ∧
      allowed ["image/*", " Application/PDF "] (some "imagery/png") = false ∧
      allowed ["image/*", " Application/PDF "] none = false := by
  have hne : ["image/*", " Application/PDF "] ≠ [] := by decide
  obtain ⟨hunion, _, _, _, _, _, hforms, habsent⟩ := allowed_patternwise hne
  have himages : Text.Trimmed "image/*".toList ("image".toList ++ ['/', '*']) :=
    Text.trimmed_iff.mpr (by decide)
  have hpdf : Text.Trimmed " Application/PDF ".toList "Application/PDF".toList :=
    Text.trimmed_iff.mpr (by decide)
  have hpng : HasMedia "IMAGE/png; q=1" "IMAGE/png".toList := hasMedia_iff.mpr (by decide)
  have himagery : HasMedia "imagery/png" "imagery/png".toList := hasMedia_iff.mpr (by decide)
  refine ⟨hne, ?_, ?_, ?_⟩
  · have hwildcard := (hforms _ _ _ _ hpng himages).1 _ rfl (by decide) (by decide)
    exact (hunion _).mpr ⟨_, List.mem_cons_self, hwildcard.mpr (by decide)⟩
  · rw [Bool.eq_false_iff]
    intro hallowed
    obtain ⟨pattern, hmem, hpattern⟩ := (hunion _).mp hallowed
    rcases List.mem_cons.mp hmem with rfl | hmem
    · have hwildcard := (hforms _ _ _ _ himagery himages).1 _ rfl (by decide) (by decide)
      exact absurd (hwildcard.mp hpattern) (by decide)
    · cases List.mem_singleton.mp hmem
      have hexact := (hforms _ _ _ _ himagery hpdf).2 (by decide)
      exact absurd (hexact.mp hpattern) (by decide)
  · apply habsent
    intro pattern hmem
    rw [Text.trimmed_iff]
    rcases List.mem_cons.mp hmem with rfl | hmem
    · decide
    · cases List.mem_singleton.mp hmem
      decide

end Signoff.ContentType
