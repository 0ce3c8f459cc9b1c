import FuzzIntake.Proofs.Configuration.Validation
import FuzzIntake.Proofs.Text.Cuts
import FuzzIntake.Proofs.Text.Trim
import Mathlib.Data.List.Induction

/-!
# What a list of sources may be

Between its commas a list names sources: a label, an `=` and a URL, none of them blank, and
every label once.  A list is read exactly if all its pieces that are not blank do so; otherwise
the first one that does not, or that repeats a label, decides the error.  Sources that were
read can be written as a list, and are read from it again.
-/

namespace FuzzIntake
namespace LabelledSource

/-! ## Pieces that name sources -/

/-- The pieces between the commas of a text without the blanks around them, blank ones left out. -/
def listed (text : String) : List (List Char) :=
  ((text.toList.splitOn ',').map Text.trimChars).filter fun piece => piece ≠ []

/-- What stands before the first `=` of a piece, without the blanks around it. -/
def labelOf (piece : List Char) : List Char :=
  Text.trimChars (piece.takeWhile (· != '='))

/-- What stands behind the first `=` of a piece, without the blanks around it. -/
def urlOf (piece : List Char) : List Char :=
  Text.trimChars ((piece.dropWhile (· != '=')).drop 1)

/-- The source that a piece names. -/
def named (piece : List Char) : LabelledSource :=
  ⟨String.ofList (labelOf piece), String.ofList (urlOf piece)⟩

/-- A piece that names a source: the text before its first `=` and the text behind are not blank. -/
structure IsSource (piece : List Char) : Prop where
  equals : '=' ∈ piece
  label : labelOf piece ≠ []
  url : urlOf piece ≠ []

/-- Pieces that name sources, no two of them with the same label. -/
structure AreSources (pieces : List (List Char)) : Prop where
  named : ∀ piece ∈ pieces, IsSource piece
  distinct : (pieces.map labelOf).Nodup

/-- What is wrong with a piece that stands behind others. -/
inductive Spoils (earlier : List (List Char)) (piece : List Char) : Fault → Prop
  | noEquals : '=' ∉ piece → Spoils earlier piece (.noEquals (String.ofList piece))
  | emptyPart : '=' ∈ piece → labelOf piece = [] ∨ urlOf piece = [] →
      Spoils earlier piece (.emptyPart (String.ofList piece))
  | repeatedLabel : IsSource piece → labelOf piece ∈ earlier.map labelOf →
      Spoils earlier piece (.repeatedLabel (String.ofList (labelOf piece)))

theorem piecesOf_toList (text : String) : piecesOf text.toList = listed text := by
  unfold piecesOf listed
  rw [Text.pieces_eq_splitOn]
  congr 1
  funext piece
  cases piece with
  | nil => rfl
  | cons c rest => rfl

/-- A piece behind sources is another source, or something is wrong with it. -/
theorem areSources_or_spoils
    {earlier : List (List Char)}
    (sources : AreSources earlier)
    (piece : List Char) :
    AreSources (earlier ++ [piece]) ∨ ∃ fault, Spoils earlier piece fault := by
  by_cases equals : '=' ∈ piece
  · by_cases empty : labelOf piece = [] ∨ urlOf piece = []
    · exact .inr ⟨_, .emptyPart equals empty⟩
    · rw [not_or] at empty
      have source : IsSource piece := ⟨equals, empty.1, empty.2⟩
      by_cases repeated : labelOf piece ∈ earlier.map labelOf
      · exact .inr ⟨_, .repeatedLabel source repeated⟩
      · refine .inl ⟨fun other within => ?_, ?_⟩
        · obtain before | same := List.mem_append.mp within
          · exact sources.named other before
          · rw [List.mem_singleton.mp same]
            exact source
        · rw [List.map_append, List.map_singleton, List.nodup_append]
          refine ⟨sources.distinct, List.pairwise_singleton _ _, ?_⟩
          rintro label before _ last rfl
          rw [List.mem_singleton] at last
          exact repeated (last ▸ before)
  · exact .inr ⟨_, .noEquals equals⟩

/--
Either all pieces name sources, or something is wrong with one behind sources.  The induction takes
pieces off the end, since what is wrong with an earlier piece comes before what is wrong with the
last.
-/
theorem areSources_or_exists_spoils (pieces : List (List Char)) :
    AreSources pieces ∨
      ∃ earlier piece later fault, pieces = earlier ++ piece :: later ∧
        AreSources earlier ∧ Spoils earlier piece fault := by
  induction pieces using List.reverseRecOn with
  | nil => exact .inl ⟨fun piece within => absurd within List.not_mem_nil, List.nodup_nil⟩
  | append_singleton pieces last inductionHypothesis =>
      obtain sources | ⟨earlier, piece, later, fault, cut, sources, spoils⟩ := inductionHypothesis
      · obtain all | ⟨fault, spoils⟩ := areSources_or_spoils sources last
        · exact .inl all
        · exact .inr ⟨pieces, last, [], fault, rfl, sources, spoils⟩
      · refine .inr ⟨earlier, piece, later ++ [last], fault, ?_, sources, spoils⟩
        rw [cut, List.append_assoc, List.cons_append]

/-! ## Reading one piece -/

theorem labelOf_append_cons
    {before : List Char}
    (absent : '=' ∉ before)
    (after : List Char) :
    labelOf (before ++ '=' :: after) = Text.trimChars before := by
  rw [labelOf, Text.takeWhile_append_cons absent]

theorem urlOf_append_cons
    {before : List Char}
    (absent : '=' ∉ before)
    (after : List Char) :
    urlOf (before ++ '=' :: after) = Text.trimChars after := by
  rw [urlOf, Text.dropWhile_append_cons absent, List.drop_one, List.tail_cons]

theorem cut?_equals
    {piece : List Char}
    (equals : '=' ∈ piece) :
    Text.cut? '=' piece =
      some (piece.takeWhile (· != '='), (piece.dropWhile (· != '=')).drop 1) := by
  obtain ⟨before, after, rfl, absent⟩ := List.eq_append_cons_of_mem equals
  rw [Text.takeWhile_append_cons absent, Text.dropWhile_append_cons absent]
  exact Text.cut?_eq_some_iff.mpr ⟨rfl, absent⟩

theorem ofPiece_of_isSource
    {piece : List Char}
    (source : IsSource piece) :
    ofPiece piece = .ok (named piece) := by
  have filled : ((labelOf piece).isEmpty || (urlOf piece).isEmpty) = false := by
    rw [Bool.or_eq_false_iff, List.isEmpty_eq_false_iff, List.isEmpty_eq_false_iff]
    exact ⟨source.label, source.url⟩
  unfold ofPiece
  rw [cut?_equals source.equals]
  change (if ((labelOf piece).isEmpty || (urlOf piece).isEmpty) = true then _ else _) = _
  rw [filled]
  rfl

/-- The fault that is found in a piece without looking at those before it. -/
theorem ofPiece_eq_error
    {piece : List Char}
    (blank : '=' ∈ piece → labelOf piece = [] ∨ urlOf piece = []) :
    ofPiece piece = .error
      (if '=' ∈ piece then .emptyPart (String.ofList piece)
        else .noEquals (String.ofList piece)) := by
  unfold ofPiece
  by_cases equals : '=' ∈ piece
  · have empty : ((labelOf piece).isEmpty || (urlOf piece).isEmpty) = true := by
      rw [Bool.or_eq_true, List.isEmpty_iff, List.isEmpty_iff]
      exact blank equals
    rw [cut?_equals equals, if_pos equals]
    change (if ((labelOf piece).isEmpty || (urlOf piece).isEmpty) = true then _ else _) = _
    rw [if_pos empty]
  · rw [Text.cut?_eq_none_iff.mpr equals, if_neg equals]

/-! ## Reading piece by piece -/

theorem any_label_iff (earlier : List (List Char)) (piece : List Char) :
    ((earlier.map named).any fun other => other.label == (named piece).label) = true ↔
      labelOf piece ∈ earlier.map labelOf := by
  simp only [List.any_map, List.any_eq_true, Function.comp_apply, beq_iff_eq, named,
    String.ofList_inj, List.mem_map]

/-- Pieces that name sources are read one after the other: each goes from those to be read to those
that were read. -/
theorem addPieces_append
    (before later : List (List Char))
    {earlier : List (List Char)}
    (sources : AreSources (before ++ earlier)) :
    addPieces (before.map named) (earlier ++ later) =
      addPieces ((before ++ earlier).map named) later := by
  induction earlier generalizing before with
  | nil => rw [List.append_nil, List.nil_append]
  | cons piece earlier inductionHypothesis =>
      have source : IsSource piece :=
        sources.named piece (List.mem_append_right _ List.mem_cons_self)
      have fresh : labelOf piece ∉ before.map labelOf := by
        have distinct := sources.distinct
        rw [List.map_append, List.map_cons, List.nodup_append] at distinct
        intro repeated
        exact distinct.2.2 _ repeated _ List.mem_cons_self rfl
      have moved : before ++ piece :: earlier = (before ++ [piece]) ++ earlier := by
        rw [List.append_assoc, List.singleton_append]
      rw [moved] at sources ⊢
      rw [← inductionHypothesis _ sources, List.cons_append, addPieces, ofPiece_of_isSource source]
      dsimp only
      rw [if_neg ((any_label_iff before piece).not.mpr fresh), List.map_append, List.map_singleton]

/-- Reading ends at a piece with which something is wrong. -/
theorem addPieces_of_spoils
    {earlier : List (List Char)}
    {piece : List Char}
    {fault : Fault}
    (spoils : Spoils earlier piece fault)
    (later : List (List Char)) :
    addPieces (earlier.map named) (piece :: later) = .error fault := by
  rw [addPieces]
  cases spoils with
  | noEquals absent =>
      rw [ofPiece_eq_error fun equals => absurd equals absent, if_neg absent]
  | emptyPart equals empty =>
      rw [ofPiece_eq_error fun _ => empty, if_pos equals]
  | repeatedLabel source repeated =>
      rw [ofPiece_of_isSource source]
      dsimp only
      rw [if_pos ((any_label_iff earlier piece).mpr repeated)]
      rfl

theorem addPieces_of_areSources
    {pieces : List (List Char)}
    (sources : AreSources pieces) :
    addPieces [] pieces = .ok (pieces.map named) := by
  have read := addPieces_append [] [] sources
  rw [List.append_nil] at read
  exact read

theorem addPieces_of_cut
    {earlier : List (List Char)}
    {piece : List Char}
    {fault : Fault}
    (sources : AreSources earlier)
    (spoils : Spoils earlier piece fault)
    (later : List (List Char)) :
    addPieces [] (earlier ++ piece :: later) = .error fault :=
  (addPieces_append [] (piece :: later) sources).trans (addPieces_of_spoils spoils later)

/-- Pieces are read exactly if they name sources. -/
theorem addPieces_eq_ok_iff {pieces : List (List Char)} {sources : List LabelledSource} :
    addPieces [] pieces = .ok sources ↔ AreSources pieces ∧ sources = pieces.map named := by
  constructor
  · intro result
    obtain all | ⟨earlier, piece, later, fault, rfl, before, spoils⟩ :=
      areSources_or_exists_spoils pieces
    · rw [addPieces_of_areSources all] at result
      exact ⟨all, (Except.ok.inj result).symm⟩
    · rw [addPieces_of_cut before spoils] at result
      cases result
  · rintro ⟨all, rfl⟩
    exact addPieces_of_areSources all

/-- Otherwise the first piece decides the error that names none or repeats a label. -/
theorem addPieces_eq_error_iff {pieces : List (List Char)} {fault : Fault} :
    addPieces [] pieces = .error fault ↔
      ∃ earlier piece later, pieces = earlier ++ piece :: later ∧
        AreSources earlier ∧ Spoils earlier piece fault := by
  constructor
  · intro result
    obtain all | ⟨earlier, piece, later, other, rfl, before, spoils⟩ :=
      areSources_or_exists_spoils pieces
    · rw [addPieces_of_areSources all] at result
      cases result
    · rw [addPieces_of_cut before spoils] at result
      cases result
      exact ⟨earlier, piece, later, rfl, before, spoils⟩
  · rintro ⟨earlier, piece, later, rfl, before, spoils⟩
    exact addPieces_of_cut before spoils later

theorem ofSetting_eq_ok_iff {text : String} {sources : List LabelledSource} :
    ofSetting text = .ok sources ↔
      AreSources (listed text) ∧ sources = (listed text).map named := by
  rw [← addPieces_eq_ok_iff, ← piecesOf_toList]
  unfold ofSetting parseList
  exact Except.mapError_eq_ok_iff

theorem ofSetting_eq_error_iff {text : String} {error : ConfigurationError} :
    ofSetting text = .error error ↔
      ∃ earlier piece later fault, listed text = earlier ++ piece :: later ∧
        AreSources earlier ∧ Spoils earlier piece fault ∧
        error = .invalid "STREAMS" fault.message := by
  rw [ofSetting, parseList, Except.mapError_eq_error_iff, piecesOf_toList]
  constructor
  · rintro ⟨fault, failed, rfl⟩
    obtain ⟨earlier, piece, later, cut, before, spoils⟩ := addPieces_eq_error_iff.mp failed
    exact ⟨earlier, piece, later, fault, cut, before, spoils, rfl⟩
  · rintro ⟨earlier, piece, later, fault, cut, before, spoils, rfl⟩
    exact ⟨fault, addPieces_eq_error_iff.mpr ⟨earlier, piece, later, cut, before, spoils⟩, rfl⟩

/-! ## Writing sources -/

/-- The piece of a source. -/
def piece (source : LabelledSource) : List Char :=
  source.label.toList ++ '=' :: source.url.toList

/-- Sources as a list. -/
def write (sources : List LabelledSource) : String :=
  ",".intercalate (sources.map fun source => source.label ++ "=" ++ source.url)

/-- A source that is read from its piece. -/
structure IsPlain (source : LabelledSource) : Prop where
  label : Text.trimChars source.label.toList = source.label.toList ∧ source.label.toList ≠ []
  url : Text.trimChars source.url.toList = source.url.toList ∧ source.url.toList ≠ []
  equals : '=' ∉ source.label.toList
  comma : ',' ∉ source.piece

theorem labelOf_piece {source : LabelledSource} (plain : source.IsPlain) :
    labelOf source.piece = source.label.toList := by
  rw [piece, labelOf_append_cons plain.equals, plain.label.1]

theorem urlOf_piece {source : LabelledSource} (plain : source.IsPlain) :
    urlOf source.piece = source.url.toList := by
  rw [piece, urlOf_append_cons plain.equals, plain.url.1]

theorem named_piece {source : LabelledSource} (plain : source.IsPlain) :
    named source.piece = source := by
  rw [named, labelOf_piece plain, urlOf_piece plain, String.ofList_toList, String.ofList_toList]

theorem isSource_piece {source : LabelledSource} (plain : source.IsPlain) :
    IsSource source.piece := by
  refine ⟨List.mem_append_right _ List.mem_cons_self, ?_, ?_⟩
  · rw [labelOf_piece plain]
    exact plain.label.2
  · rw [urlOf_piece plain]
    exact plain.url.2

/-- The piece of a plain source has no blanks around it. -/
theorem trimChars_piece {source : LabelledSource} (plain : source.IsPlain) :
    Text.trimChars source.piece = source.piece := by
  apply Text.trimChars_of_ends
  · intro c first
    apply Text.isBlank_of_head?_trimChars source.label.toList
    rw [plain.label.1]
    rwa [piece, List.head?_append_of_ne_nil _ plain.label.2] at first
  · intro c last
    apply Text.isBlank_of_getLast?_trimChars source.url.toList
    rw [plain.url.1]
    rwa [piece, List.getLast?_append_of_ne_nil _ (List.cons_ne_nil _ _),
      List.getLast?_cons_of_ne_nil plain.url.2] at last

/-- Plain sources are listed by their pieces. -/
theorem listed_write
    {sources : List LabelledSource}
    (plain : ∀ source ∈ sources, source.IsPlain) :
    listed (write sources) = sources.map piece := by
  have spelled : (write sources).toList = [','].intercalate (sources.map piece) := by
    have worded : (String.toList ∘ fun source : LabelledSource =>
        source.label ++ "=" ++ source.url) = piece := by
      funext source
      rw [Function.comp_apply, String.toList_append, String.toList_append, List.append_assoc]
      rfl
    rw [write, String.toList_intercalate, List.map_map, worded]
    rfl
  cases sources with
  | nil => decide
  | cons source rest =>
      have cut : (write (source :: rest)).toList.splitOn ',' = (source :: rest).map piece := by
        rw [spelled]
        refine List.splitOn_intercalate ',' ?_ (List.cons_ne_nil _ _)
        intro spelling within
        obtain ⟨other, member, rfl⟩ := List.mem_map.mp within
        exact (plain other member).comma
      have trimmed : ((source :: rest).map piece).map Text.trimChars =
          (source :: rest).map piece := by
        rw [List.map_map]
        exact List.map_congr_left fun other member => trimChars_piece (plain other member)
      rw [listed, cut, trimmed, List.filter_eq_self]
      intro spelling within
      obtain ⟨other, member, rfl⟩ := List.mem_map.mp within
      exact decide_eq_true (List.append_ne_nil_of_right_ne_nil _ (List.cons_ne_nil _ _))

/-- What a listed piece names is plain. -/
theorem isPlain_named
    {text : String}
    {piece : List Char}
    (within : piece ∈ listed text)
    (source : IsSource piece) :
    (named piece).IsPlain := by
  obtain ⟨raw, cut, rfl⟩ := List.mem_map.mp (List.mem_of_mem_filter within)
  have commaless : ',' ∉ Text.trimChars raw := fun comma =>
    Text.not_mem_of_mem_splitOn cut (Text.mem_of_mem_trimChars comma)
  obtain ⟨before, after, spelled, absent⟩ := List.eq_append_cons_of_mem source.equals
  have label := source.label
  have url := source.url
  rw [spelled, labelOf_append_cons absent] at label
  rw [spelled, urlOf_append_cons absent] at url
  rw [spelled] at commaless ⊢
  rw [List.mem_append, List.mem_cons, not_or, not_or] at commaless
  rw [named, labelOf_append_cons absent, urlOf_append_cons absent]
  refine ⟨?_, ?_, ?_, ?_⟩
  · rw [String.toList_ofList]
    exact ⟨Text.trimChars_trimChars before, label⟩
  · rw [String.toList_ofList]
    exact ⟨Text.trimChars_trimChars after, url⟩
  · rw [String.toList_ofList]
    exact fun within => absent (Text.mem_of_mem_trimChars within)
  · rw [LabelledSource.piece, String.toList_ofList, String.toList_ofList, List.mem_append,
      List.mem_cons, not_or, not_or]
    exact ⟨fun within => commaless.1 (Text.mem_of_mem_trimChars within), commaless.2.1,
      fun within => commaless.2.2 (Text.mem_of_mem_trimChars within)⟩

/-- Sources that were read are read again from the list they are written as. -/
theorem ofSetting_write
    {text : String}
    {sources : List LabelledSource}
    (read : ofSetting text = .ok sources) :
    ofSetting (write sources) = .ok sources := by
  obtain ⟨all, rfl⟩ := ofSetting_eq_ok_iff.mp read
  have plain : ∀ spelling ∈ listed text, (named spelling).IsPlain := fun spelling within =>
    isPlain_named within (all.named spelling within)
  have labels : ((listed text).map fun spelling => (named spelling).piece).map labelOf =
      (listed text).map labelOf := by
    rw [List.map_map]
    refine List.map_congr_left fun spelling within => ?_
    rw [Function.comp_apply, labelOf_piece (plain spelling within), named, String.toList_ofList]
  have respelled : listed (write ((listed text).map named)) =
      (listed text).map fun spelling => (named spelling).piece := by
    rw [listed_write (List.forall_mem_map.mpr plain), List.map_map]
    rfl
  rw [ofSetting_eq_ok_iff, respelled]
  refine ⟨⟨List.forall_mem_map.mpr fun spelling within => isSource_piece (plain spelling within),
    ?_⟩, ?_⟩
  · rw [labels]
    exact all.distinct
  · rw [List.map_map]
    exact List.map_congr_left fun spelling within => (named_piece (plain spelling within)).symm

/--
A list is read exactly if its pieces name sources whose labels are distinct, and then it is
those sources in order.  Otherwise the first piece that names none, or that repeats a label,
decides the error.  Sources that were read are read again from the list they are written as.
-/
theorem ofSetting_follows_grammar (text : String) :
    (∀ sources, ofSetting text = .ok sources ↔
      AreSources (listed text) ∧ sources = (listed text).map named) ∧
    (∀ error, ofSetting text = .error error ↔
      ∃ earlier piece later fault, listed text = earlier ++ piece :: later ∧
        AreSources earlier ∧ Spoils earlier piece fault ∧
        error = .invalid "STREAMS" fault.message) ∧
    ∀ sources, ofSetting text = .ok sources → ofSetting (write sources) = .ok sources :=
  ⟨fun _ => ofSetting_eq_ok_iff, fun _ => ofSetting_eq_error_iff, fun _ => ofSetting_write⟩

/-- Padding, blank pieces and an `=` in a URL are written back without what is skipped. -/
theorem ofSetting_follows_grammar_padded :
    ofSetting " a = redis://h1?x=y , ,b=redis://h2/0," =
        .ok [⟨"a", "redis://h1?x=y"⟩, ⟨"b", "redis://h2/0"⟩] ∧
      ofSetting (write [⟨"a", "redis://h1?x=y"⟩, ⟨"b", "redis://h2/0"⟩]) =
        .ok [⟨"a", "redis://h1?x=y"⟩, ⟨"b", "redis://h2/0"⟩] := by
  have read : ofSetting " a = redis://h1?x=y , ,b=redis://h2/0," =
      .ok [⟨"a", "redis://h1?x=y"⟩, ⟨"b", "redis://h2/0"⟩] :=
    Except.eq_ok_of_toOption (by decide +kernel)
  exact ⟨read, (ofSetting_follows_grammar _).2.2 _ read⟩

end LabelledSource
end FuzzIntake
