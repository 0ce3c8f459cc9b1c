import FuzzIntake.Configuration.Url
import FuzzIntake.Proofs.Text.Cuts

/-!
# What a redacted URL shows

Redaction looks for the password in front of the first slash behind the scheme.  There it
finds a password without a slash and hides it, whatever else is in it, and a URL that is
redacted already is left as it is.  A password with a slash is hidden up to the last `@` before
its first slash if it has one, and not at all otherwise: two passwords give the same redacted
URL exactly if neither has a slash or nothing that is shown tells them apart.
-/

namespace FuzzIntake
namespace Url

/-! ## The part before the path -/

/-- The part of a URL between its scheme and its path, with the password replaced by stars. -/
def redactAuthority (authority : List Char) : List Char :=
  match Text.cutLast? '@' authority with
  | none => authority
  | some (credentials, host) =>
      match Text.cut? ':' credentials with
      | none => authority
      | some (user, _) => user ++ ":***@".toList ++ host

/-- Redaction changes nothing but the part between the scheme and the path. -/
theorem redactChars_append
    {scheme authority path : List Char}
    (first : ¬ "://".toList <:+: scheme)
    (flat : '/' ∉ authority)
    (rooted : path = [] ∨ ∃ rest, path = '/' :: rest) :
    redactChars (scheme ++ ("://".toList ++ (authority ++ path))) =
      scheme ++ ("://".toList ++ (redactAuthority authority ++ path)) := by
  have cut : Text.cutAt? "://".toList (scheme ++ ("://".toList ++ (authority ++ path))) =
      some (scheme, authority ++ path) :=
    Text.cutAt?_append (by decide) first (authority ++ path)
  have parts := Text.takeWhile_dropWhile_append flat rooted
  unfold redactChars redactAuthority
  rw [cut]
  dsimp only
  rw [parts.1, parts.2]
  cases Text.cutLast? '@' authority with
  | none => rfl
  | some found =>
      dsimp only
      cases Text.cut? ':' found.1 with
      | none => rfl
      | some named =>
          dsimp only
          simp only [List.append_assoc]

/-- Between the first colon and the last `@` everything is hidden. -/
theorem redactAuthority_of_password
    {user host : List Char}
    (colon : ':' ∉ user)
    (last : '@' ∉ host)
    (password : List Char) :
    redactAuthority (user ++ ':' :: (password ++ '@' :: host)) =
      user ++ ":***@".toList ++ host := by
  have cut : Text.cutLast? '@' (user ++ ':' :: (password ++ '@' :: host)) =
      some (user ++ ':' :: password, host) :=
    Text.cutLast?_eq_some_iff.mpr ⟨by rw [List.append_assoc, List.cons_append], last⟩
  have named : Text.cut? ':' (user ++ ':' :: password) = some (user, password) :=
    Text.cut?_eq_some_iff.mpr ⟨rfl, colon⟩
  unfold redactAuthority
  rw [cut]
  dsimp only
  rw [named]

/-- Without an `@` behind the first colon nothing is hidden: the last `@`, if there is one, is part
of the user's name. -/
theorem redactAuthority_of_no_password
    {user visible : List Char}
    (colon : ':' ∉ user)
    (absent : '@' ∉ visible) :
    redactAuthority (user ++ ':' :: visible) = user ++ ':' :: visible := by
  unfold redactAuthority
  cases found : Text.cutLast? '@' (user ++ ':' :: visible) with
  | none => rfl
  | some cut =>
      obtain ⟨credentials, host⟩ := cut
      have written := (Text.cutLast?_eq_some_iff.mp found).1
      have unnamed : Text.cut? ':' credentials = none := by
        rw [Text.cut?_eq_none_iff]
        obtain ⟨between, long, rest⟩ | ⟨between, short, -⟩ :=
          List.append_eq_append_iff.mp written
        · cases between with
          | nil => cases rest
          | cons b between =>
              rw [List.cons_append, List.cons.injEq] at rest
              exact absurd (rest.2 ▸ List.mem_append_right _ List.mem_cons_self) absent
        · exact fun within => colon (short ▸ List.mem_append_left _ within)
      dsimp only
      rw [unnamed]

/-- Either nothing is hidden, or what stands between the first colon and the last `@`. -/
theorem redactAuthority_cases (authority : List Char) :
    redactAuthority authority = authority ∨
      ∃ user password host, authority = user ++ ':' :: (password ++ '@' :: host) ∧
        ':' ∉ user ∧ '@' ∉ host := by
  unfold redactAuthority
  cases found : Text.cutLast? '@' authority with
  | none => exact .inl rfl
  | some cut =>
      obtain ⟨credentials, host⟩ := cut
      obtain ⟨written, last⟩ := Text.cutLast?_eq_some_iff.mp found
      dsimp only
      cases named : Text.cut? ':' credentials with
      | none => exact .inl rfl
      | some cut =>
          obtain ⟨user, password⟩ := cut
          obtain ⟨spelled, colon⟩ := Text.cut?_eq_some_iff.mp named
          refine .inr ⟨user, password, host, ?_, colon, last⟩
          rw [written, spelled, List.append_assoc, List.cons_append]

/-! ## The surroundings of a password -/

/-- What surrounds a password in a URL. -/
structure Frame where
  /-- What stands before `://`. -/
  scheme : String
  /-- What stands between `://` and the colon before the password. -/
  user : String
  /-- What stands behind the `@` after the password. -/
  tail : String

namespace Frame

/-- The URL with a password in its place. -/
def url (frame : Frame) (password : String) : String :=
  frame.scheme ++ "://" ++ frame.user ++ ":" ++ password ++ "@" ++ frame.tail

/-- The characters of the URL with a password in its place. -/
def chars (frame : Frame) (password : List Char) : List Char :=
  frame.scheme.toList ++
    ("://".toList ++ (frame.user.toList ++ ':' :: (password ++ '@' :: frame.tail.toList)))

/--
The colon before the password is the first one behind the scheme, and the `@` after it is the
last one before the next slash, unless the password has one of its own.
-/
structure IsSound (frame : Frame) : Prop where
  scheme : ¬ "://".toList <:+: frame.scheme.toList
  colon : ':' ∉ frame.user.toList
  slash : '/' ∉ frame.user.toList
  tail : '@' ∉ frame.tail.toList.takeWhile (· != '/')

theorem toList_url (frame : Frame) (password : String) :
    (frame.url password).toList = frame.chars password.toList := by
  unfold url chars
  simp only [String.toList_append, List.append_assoc]
  rfl

theorem redact_url (frame : Frame) (password : String) :
    redact (frame.url password) = String.ofList (redactChars (frame.chars password.toList)) := by
  rw [redact, toList_url]

/-- A URL keeps its password apart from what surrounds it. -/
theorem chars_inj {frame : Frame} {first second : List Char} :
    frame.chars first = frame.chars second ↔ first = second := by
  unfold chars
  simp only [List.append_cancel_left_eq, List.cons.injEq, true_and, List.append_cancel_right_eq]

end Frame

/-! ## What is shown of a password -/

/-- What a redacted URL shows in the place of a password. -/
inductive Shows : (password shown : List Char) → Prop
  | nothing {password : List Char} : '/' ∉ password → Shows password "***".toList
  | rest {before rest : List Char} :
      '/' ∉ before → '/' ∈ rest → '@' ∉ rest.takeWhile (· != '/') →
      Shows (before ++ '@' :: rest) ("***@".toList ++ rest)
  | whole {password : List Char} :
      '/' ∈ password → '@' ∉ password.takeWhile (· != '/') → Shows password password

theorem exists_shows (password : List Char) : ∃ shown, Shows password shown := by
  by_cases slash : '/' ∈ password
  · obtain ⟨visible, after, rfl, level⟩ := List.eq_append_cons_of_mem slash
    cases found : Text.cutLast? '@' visible with
    | none =>
        refine ⟨_, .whole slash ?_⟩
        rw [Text.takeWhile_append_cons level]
        exact Text.cutLast?_eq_none_iff.mp found
    | some cut =>
        obtain ⟨before, host⟩ := cut
        obtain ⟨rfl, last⟩ := Text.cutLast?_eq_some_iff.mp found
        rw [List.mem_append, List.mem_cons, not_or, not_or] at level
        refine ⟨"***@".toList ++ (host ++ '/' :: after), ?_⟩
        rw [List.append_assoc, List.cons_append]
        refine .rest level.1 (List.mem_append_right _ List.mem_cons_self) ?_
        rw [Text.takeWhile_append_cons level.2.2]
        exact last
  · exact ⟨_, .nothing slash⟩

/-- Two passwords with a slash that are the same from the last `@` before their first slash on. -/
def EndAlike (first second : List Char) : Prop :=
  ∃ front front' rest, first = front ++ '@' :: rest ∧ second = front' ++ '@' :: rest ∧
    '/' ∉ front ∧ '/' ∉ front' ∧ '/' ∈ rest ∧ '@' ∉ rest.takeWhile (· != '/')

/-- What is shown of a password tells it from all others but those that are hidden alike. -/
theorem alike_of_shows
    {first second shown shown' : List Char}
    (showsFirst : Shows first shown)
    (showsSecond : Shows second shown')
    (same : shown = shown') :
    first = second ∨ ('/' ∉ first ∧ '/' ∉ second) ∨ EndAlike first second := by
  have starred : ∀ rest : List Char, '@' ∈ ("***@".toList ++ rest).takeWhile (· != '/') := by
    intro rest
    simp
  have unslashed : '/' ∉ "***".toList := by decide
  cases showsFirst with
  | nothing flat =>
      cases showsSecond with
      | nothing flat' => exact .inr (.inl ⟨flat, flat'⟩)
      | rest flat' slash last => cases same
      | whole slash absent => exact absurd (same ▸ slash) unslashed
  | @rest front rest flat slash last =>
      cases showsSecond with
      | nothing flat' => cases same
      | @rest front' rest' flat' slash' last' =>
          cases List.append_cancel_left same
          exact .inr (.inr ⟨front, front', rest, rfl, rfl, flat, flat', slash, last⟩)
      | whole slash absent => exact absurd (same ▸ starred rest) absent
  | whole slash absent =>
      cases showsSecond with
      | nothing flat' => exact absurd (same ▸ slash) unslashed
      | @rest front' rest' flat' slash' last' => exact absurd (same ▸ starred rest') absent
      | whole slash' absent' => exact .inl same

namespace Frame

variable {frame : Frame}

/--
A redacted URL has in the place of the password what is shown of it.  Where nothing is shown, the
authority ends in the tail, and the `@` behind the password is its last one.  Else the authority
ends within the password, and so does what is taken for a password.
-/
theorem redactChars_chars
    (sound : frame.IsSound)
    {password shown : List Char}
    (shows : Shows password shown) :
    redactChars (frame.chars password) = frame.chars shown := by
  unfold chars
  cases shows with
  | nothing flat =>
      obtain ⟨host, path, cut, level, rooted⟩ := Text.exists_append_rooted '/' frame.tail.toList
      have last : '@' ∉ host := by
        rw [← (Text.takeWhile_dropWhile_append level rooted).1, ← cut]
        exact sound.tail
      have front : '/' ∉ frame.user.toList ++ ':' :: (password ++ '@' :: host) := by
        simp [sound.slash, flat, level]
      have written : frame.user.toList ++ ':' :: (password ++ '@' :: frame.tail.toList) =
          (frame.user.toList ++ ':' :: (password ++ '@' :: host)) ++ path := by
        simp only [cut, List.append_assoc, List.cons_append]
      rw [written, redactChars_append sound.scheme front rooted,
        redactAuthority_of_password sound.colon last]
      simp only [cut, List.append_assoc]
      rfl
  | @rest before rest flat slash last =>
      obtain ⟨host, after, rfl, level⟩ := List.eq_append_cons_of_mem slash
      rw [Text.takeWhile_append_cons level] at last
      have written : frame.user.toList ++ ':' ::
          (before ++ '@' :: (host ++ '/' :: after) ++ '@' :: frame.tail.toList) =
            (frame.user.toList ++ ':' :: (before ++ '@' :: host)) ++
              '/' :: (after ++ '@' :: frame.tail.toList) := by
        simp only [List.append_assoc, List.cons_append]
      have front : '/' ∉ frame.user.toList ++ ':' :: (before ++ '@' :: host) := by
        simp [sound.slash, flat, level]
      rw [written, redactChars_append sound.scheme front (.inr ⟨_, rfl⟩),
        redactAuthority_of_password sound.colon last]
      simp only [List.append_assoc, List.cons_append]
      rfl
  | whole slash absent =>
      obtain ⟨visible, after, rfl, level⟩ := List.eq_append_cons_of_mem slash
      rw [Text.takeWhile_append_cons level] at absent
      have written : frame.user.toList ++ ':' ::
          (visible ++ '/' :: after ++ '@' :: frame.tail.toList) =
            (frame.user.toList ++ ':' :: visible) ++
              '/' :: (after ++ '@' :: frame.tail.toList) := by
        simp only [List.append_assoc, List.cons_append]
      have front : '/' ∉ frame.user.toList ++ ':' :: visible := by
        simp [sound.slash, level]
      rw [written, redactChars_append sound.scheme front (.inr ⟨_, rfl⟩),
        redactAuthority_of_no_password sound.colon absent]

/-- A URL whose password has no slash shows three stars in its place. -/
theorem redact_of_flat
    (sound : frame.IsSound)
    {password : String}
    (flat : '/' ∉ password.toList) :
    redact (frame.url password) = frame.url "***" := by
  rw [redact_url, redactChars_chars sound (.nothing flat), ← toList_url, String.ofList_toList]

end Frame

/-- A redacted URL is the URL itself, unless the URL has a password without a slash. -/
theorem redact_cases (url : String) :
    redact url = url ∨
      ∃ frame password, Frame.IsSound frame ∧ '/' ∉ password.toList ∧
        url = frame.url password := by
  cases found : Text.cutAt? "://".toList url.toList with
  | none =>
      refine .inl ?_
      rw [redact, redactChars, found]
      exact String.ofList_toList
  | some cut =>
      obtain ⟨scheme, rest⟩ := cut
      have cut : url.toList = scheme ++ ("://".toList ++ rest) ∧ ¬ "://".toList <:+: scheme :=
        Text.eq_of_cutAt? found
      obtain ⟨written, first⟩ := cut
      obtain ⟨authority, path, rfl, level, rooted⟩ := Text.exists_append_rooted '/' rest
      obtain same | ⟨user, password, host, rfl, colon, last⟩ := redactAuthority_cases authority
      · refine .inl ?_
        rw [redact, written, redactChars_append first level rooted, same, ← written,
          String.ofList_toList]
      · simp only [List.mem_append, List.mem_cons, not_or] at level
        obtain ⟨userFlat, -, passwordFlat, -, hostFlat⟩ := level
        refine .inr ⟨⟨String.ofList scheme, String.ofList user, String.ofList (host ++ path)⟩,
          String.ofList password, ⟨?_, ?_, ?_, ?_⟩, ?_, ?_⟩
        · rw [@String.toList_ofList scheme]
          exact first
        · rw [String.toList_ofList]
          exact colon
        · rw [String.toList_ofList]
          exact userFlat
        · rw [String.toList_ofList, (Text.takeWhile_dropWhile_append hostFlat rooted).1]
          exact last
        · rw [String.toList_ofList]
          exact passwordFlat
        · rw [← String.toList_inj, Frame.toList_url, Frame.chars, written]
          simp only [String.toList_ofList, List.append_assoc, List.cons_append]

/--
Two passwords in the same place give the same redacted URL exactly if they are the same, or
neither has a slash, or both have one and are the same from the last `@` before it on.  A
password is hidden exactly if it has no slash.
-/
theorem redact_eq_redact_iff
    {frame : Frame}
    (sound : frame.IsSound)
    (first second : String) :
    (redact (frame.url first) = redact (frame.url second) ↔
      first = second ∨ ('/' ∉ first.toList ∧ '/' ∉ second.toList) ∨
        EndAlike first.toList second.toList) ∧
    (redact (frame.url first) = frame.url "***" ↔ '/' ∉ first.toList) := by
  obtain ⟨shown, showsFirst⟩ := exists_shows first.toList
  obtain ⟨shown', showsSecond⟩ := exists_shows second.toList
  refine ⟨⟨fun same => ?_, fun alike => ?_⟩, fun hidden => ?_, Frame.redact_of_flat sound⟩
  · rw [Frame.redact_url, Frame.redact_url, String.ofList_inj,
      Frame.redactChars_chars sound showsFirst, Frame.redactChars_chars sound showsSecond,
      Frame.chars_inj] at same
    rw [← String.toList_inj]
    exact alike_of_shows showsFirst showsSecond same
  · obtain same | ⟨flat, flat'⟩ |
      ⟨front, front', rest, written, written', flat, flat', slash, last⟩ := alike
    · rw [same]
    · rw [Frame.redact_of_flat sound flat, Frame.redact_of_flat sound flat']
    · rw [Frame.redact_url, Frame.redact_url, written, written',
        Frame.redactChars_chars sound (.rest flat slash last),
        Frame.redactChars_chars sound (.rest flat' slash last)]
  · rw [Frame.redact_url, Frame.redactChars_chars sound showsFirst, ← String.toList_inj,
      String.toList_ofList, Frame.toList_url, Frame.chars_inj] at hidden
    obtain empty | ⟨flat, -⟩ | ⟨front, front', rest, -, written, -⟩ :=
      alike_of_shows showsFirst (.nothing List.not_mem_nil) hidden
    · rw [empty]
      exact List.not_mem_nil
    · exact flat
    · exact absurd written.symm (List.append_ne_nil_of_right_ne_nil front' (List.cons_ne_nil _ _))

/-- The surroundings of the password in the standard URL of the database. -/
def Frame.standard : Frame :=
  ⟨"postgres", "fuzzuser", "pg:5432/main"⟩

theorem Frame.standard_isSound : Frame.standard.IsSound :=
  ⟨by decide +kernel, by decide +kernel, by decide +kernel, by decide +kernel⟩

/-- Passwords without a slash are hidden alike, and so are two with the same end. -/
theorem redact_eq_redact_iff_standard :
    Frame.standard.IsSound ∧
      redact (Frame.standard.url "p@ss:w?rd") = redact (Frame.standard.url "") ∧
      redact (Frame.standard.url "one@b/c") = redact (Frame.standard.url "other:@b/c") := by
  have sound := Frame.standard_isSound
  refine ⟨sound, (redact_eq_redact_iff sound _ _).1.mpr (.inr (.inl (by decide))),
    (redact_eq_redact_iff sound _ _).1.mpr (.inr (.inr ?_))⟩
  exact ⟨['o', 'n', 'e'], ['o', 't', 'h', 'e', 'r', ':'], ['b', '/', 'c'], by decide⟩

/-- A password with a slash is shown, although another one in its place is hidden. -/
theorem redact_shows_password_with_slash :
    Frame.standard.IsSound ∧ '@' ∉ Frame.standard.user.toList ∧
      redact (Frame.standard.url "pa/ss") = Frame.standard.url "pa/ss" ∧
      redact (Frame.standard.url "pa/ss") ≠ redact (Frame.standard.url "pass") :=
  ⟨Frame.standard_isSound, by decide, by decide +kernel, by decide +kernel⟩

/--
A redacted URL is the URL itself or the URL with three stars in the place of its password,
redacting it again changes nothing, and wherever a password without a slash stands it is
replaced.
-/
theorem redact_replaces_only_password (url : String) :
    (redact url = url ∨
      ∃ frame password, Frame.IsSound frame ∧ '/' ∉ password.toList ∧
        url = frame.url password ∧ redact url = frame.url "***") ∧
    redact (redact url) = redact url ∧
    ∀ frame password, Frame.IsSound frame → '/' ∉ password.toList →
      redact (frame.url password) = frame.url "***" := by
  have stars : '/' ∉ "***".toList := by decide
  refine ⟨?_, ?_, fun frame password sound flat => Frame.redact_of_flat sound flat⟩
  · obtain same | ⟨frame, password, sound, flat, written⟩ := redact_cases url
    · exact .inl same
    · refine .inr ⟨frame, password, sound, flat, written, ?_⟩
      rw [written, Frame.redact_of_flat sound flat]
  · obtain same | ⟨frame, password, sound, flat, written⟩ := redact_cases url
    · rw [same, same]
    · rw [written, Frame.redact_of_flat sound flat, Frame.redact_of_flat sound stars]

/-- The surroundings of a password whose scheme, user and path hold what looks like a separator. -/
def Frame.crowded : Frame :=
  ⟨"a:/", "name@place", "[::1]:5/x@y:z"⟩

/-- Only the last `@` before the path ends a password, and only its first colon begins it. -/
theorem redact_replaces_only_password_crowded :
    Frame.crowded.IsSound ∧ '/' ∉ "p:@:@w".toList ∧
      redact (Frame.crowded.url "p:@:@w") = Frame.crowded.url "***" := by
  have sound : Frame.crowded.IsSound :=
    ⟨by decide +kernel, by decide +kernel, by decide +kernel, by decide +kernel⟩
  have flat : '/' ∉ "p:@:@w".toList := by decide
  exact ⟨sound, flat, (redact_replaces_only_password "").2.2 Frame.crowded "p:@:@w" sound flat⟩

end Url
end FuzzIntake
