import Astrix.Library.JsonValue

/-!
# Splitting a URL

`urllib.parse.urlparse`: the scheme in front of the first colon, the authority
between two slashes and the next delimiter, and in it the host and the port.
The case mapping and the normal forms of Unicode and the syntax of addresses in
brackets are given from outside; of them only is used that lower case makes no
slash.
-/

namespace PyRuntime

set_option autoImplicit false

/-- What the splitting takes from tables and from other modules: `str.lower`, the
check of a netloc under NFKC, and that of a host in brackets. -/
structure UrlRules where
  lower : Text → Text
  lowerFree : ∀ text, (47 : CodePoint) ∉ text → (47 : CodePoint) ∉ lower text
  unsafeNetloc : Text → Bool
  bracketedHost : Text → Bool

/-- The parts of a URL that are looked at. -/
structure SplitUrl where
  scheme : Text
  netloc : Text
  deriving DecidableEq

def isAsciiAlpha (point : CodePoint) : Bool :=
  (65 ≤ point.val && point.val ≤ 90) || (97 ≤ point.val && point.val ≤ 122)

/-- The members of `scheme_chars`. -/
def isSchemeChar (point : CodePoint) : Bool :=
  isAsciiAlpha point || isAsciiDigit point || point = 43 || point = 45 || point = 46

def asciiLower (point : CodePoint) : CodePoint :=
  if 65 ≤ point.val ∧ point.val ≤ 90 then Fin.ofNat 0x110000 (point.val + 32) else point

/-- The scheme, if there is one, and what is behind its colon. -/
def cutScheme (url : Text) : Text × Text :=
  let (before, found, after) := partitionAt 58 url
  if found ∧ before.head?.any isAsciiAlpha ∧ before.all isSchemeChar then
    (before.map asciiLower, after)
  else ([], url)

/-- `text.rpartition("@")[2]`. -/
def behindUserinfo (netloc : Text) : Text :=
  match splitLast 64 netloc with
  | some (_, after) => after
  | none => netloc

/-- `_check_bracketed_netloc`. -/
def bracketsFit (rules : UrlRules) (netloc : Text) : Bool :=
  let (before, opened, bracketed) := partitionAt 91 (behindUserinfo netloc)
  if opened then
    let (hostname, _, port) := partitionAt 93 bracketed
    before.isEmpty && (port.isEmpty || port.head? = some 58) && rules.bracketedHost hostname
  else rules.bracketedHost (partitionAt 58 (behindUserinfo netloc)).1

/-- `_splitnetloc` ends the netloc at the first of these. -/
def isNetlocEnd (point : CodePoint) : Bool := point = 47 || point = 63 || point = 35

/-- The checks of a netloc. -/
def checkNetloc (rules : UrlRules) (netloc : Text) : Except LoadError Unit := do
  failIf (¬ (91 ∈ netloc ↔ 93 ∈ netloc)) .invalidUrl
  failIf (91 ∈ netloc ∧ bracketsFit rules netloc = false) .invalidUrl
  failIf (rules.unsafeNetloc netloc = true) .invalidUrl

/-- Control characters and spaces in front go, and so do tabs and line ends. -/
def cleanUrl (url : Text) : Text :=
  (url.dropWhile fun point => point.val ≤ 32).filter fun point =>
    !(point = 9 || point = 10 || point = 13)

/-- `urlparse(url)`. -/
def urlparse (rules : UrlRules) (url : Text) : Except LoadError SplitUrl :=
  let (scheme, rest) := cutScheme (cleanUrl url)
  match rest with
  | 47 :: 47 :: tail => do
      let netloc := tail.takeWhile fun point => !isNetlocEnd point
      checkNetloc rules netloc
      .ok { scheme := scheme, netloc := netloc }
  | _ => .ok { scheme := scheme, netloc := [] }

namespace SplitUrl

/-- `_hostinfo`. -/
def hostinfo (url : SplitUrl) : Text × Text :=
  let info := behindUserinfo url.netloc
  let (_, opened, bracketed) := partitionAt 91 info
  if opened then
    let (hostname, _, port) := partitionAt 93 bracketed
    (hostname, (partitionAt 58 port).2.2)
  else
    let (hostname, _, port) := partitionAt 58 info
    (hostname, port)

/-- `hostname`; a zone behind a percent sign keeps its case. -/
def hostname (rules : UrlRules) (url : SplitUrl) : Option Text :=
  if url.hostinfo.1 = [] then none
  else
    let (name, percent, zone) := partitionAt 37 url.hostinfo.1
    some (rules.lower name ++ (if percent then 37 :: zone else []))

/-- `port`. -/
def port (url : SplitUrl) : Except LoadError (Option Nat) :=
  let text := url.hostinfo.2
  if text = [] then .ok none
  else if text.all isAsciiDigit then
    match readNatural text with
    | some number => if number ≤ 65535 then .ok (some number) else .error .invalidUrl
    | none => .error .invalidUrl
  else .error .invalidUrl

end SplitUrl

section Slashes

variable {rules : UrlRules} {url : Text} {split : SplitUrl}

theorem behind_userinfo_subset {netloc : Text} {point : CodePoint}
    (member : point ∈ behindUserinfo netloc) : point ∈ netloc := by
  unfold behindUserinfo at member
  cases found : splitLast 64 netloc with
  | none =>
      rw [found] at member
      exact member
  | some parts =>
      rw [found] at member
      rw [split_last_some 64 found]
      exact List.mem_append_right _ (List.mem_cons_of_mem _ member)

theorem clean_url_subset {point : CodePoint} (member : point ∈ cleanUrl url) : point ∈ url :=
  (List.dropWhile_sublist _).subset (List.mem_of_mem_filter member)

theorem cut_scheme_subset {point : CodePoint} (member : point ∈ (cutScheme url).2) :
    point ∈ url := by
  unfold cutScheme at member
  dsimp only at member
  split_ifs at member
  · exact partition_after_subset member
  · exact member

/-- There are no slashes in a netloc. -/
theorem netloc_free (parsed : urlparse rules url = .ok split) : 47 ∉ split.netloc := by
  unfold urlparse at parsed
  dsimp only at parsed
  split at parsed
  · next tail same =>
      obtain ⟨_, _, result⟩ := (bind_ok_iff _ _ _).mp parsed
      cases result
      intro member
      have inside := List.mem_takeWhile_imp member
      cases inside
  · cases parsed
    exact List.not_mem_nil

theorem hostinfo_free (free : 47 ∉ split.netloc) : 47 ∉ split.hostinfo.1 := by
  intro member
  unfold SplitUrl.hostinfo at member
  dsimp only at member
  split_ifs at member
  · exact free (behind_userinfo_subset
      (partition_after_subset (partition_before_subset member)))
  · exact free (behind_userinfo_subset (partition_before_subset member))

/-- There are none in a host. -/
theorem hostname_free {host : Text} (parsed : urlparse rules url = .ok split)
    (named : split.hostname rules = some host) : 47 ∉ host := by
  have free := hostinfo_free (netloc_free parsed)
  unfold SplitUrl.hostname at named
  dsimp only at named
  split_ifs at named with empty zoned
  · cases named
    intro member
    rcases List.mem_append.mp member with inName | inZone
    · exact rules.lowerFree _ (fun inside => free (partition_before_subset inside)) inName
    · rcases List.mem_cons.mp inZone with same | inZone
      · cases same
      · exact free (partition_after_subset inZone)
  · cases named
    rw [List.append_nil]
    exact rules.lowerFree _ fun inside => free (partition_before_subset inside)

/-- Without slashes there is no authority, hence neither host nor port. -/
theorem parse_without_slash (free : 47 ∉ url) (parsed : urlparse rules url = .ok split) :
    split.hostname rules = none ∧ split.port = .ok none := by
  have empty : split.netloc = [] := by
    unfold urlparse at parsed
    dsimp only at parsed
    split at parsed
    · next tail same =>
        have member : (47 : CodePoint) ∈ 47 :: 47 :: tail := List.mem_cons_self ..
        rw [← same] at member
        exact absurd (clean_url_subset (cut_scheme_subset member)) free
    · cases parsed
      rfl
  obtain ⟨scheme, netloc⟩ := split
  cases empty
  exact ⟨rfl, rfl⟩

/-- A text that begins with a colon has no scheme. -/
theorem parse_colon {rest : Text} (parsed : urlparse rules (58 :: rest) = .ok split) :
    split.scheme = [] := by
  have kept : cleanUrl (58 :: rest) = 58 :: rest.filter fun point =>
      !(point = 9 || point = 10 || point = 13) := rfl
  have uncut : ∀ behind, cutScheme (58 :: behind) = ([], 58 :: behind) := fun _ => rfl
  rw [urlparse, kept, uncut] at parsed
  cases parsed
  rfl

/-- The rules for ASCII, without hosts in brackets. -/
def plainRules : UrlRules where
  lower text := text.map asciiLower
  lowerFree text free member := by
    obtain ⟨point, inside, lowered⟩ := List.mem_map.mp member
    unfold asciiLower at lowered
    split_ifs at lowered with upper
    · have value := congrArg Fin.val lowered
      rw [Fin.val_ofNat, Nat.mod_eq_of_lt (by omega)] at value
      have small : ((47 : CodePoint) : Nat) = 47 := rfl
      omega
    · exact free (lowered ▸ inside)
  unsafeNetloc _ := false
  bracketedHost _ := false

example : (urlparse plainRules (literal "SOCKS5://user@Host:99/")).toOption.map
    (fun url => (url.scheme, url.hostname plainRules, url.port.toOption)) =
      some (literal "socks5", some (literal "host"), some (some 99)) := by decide +kernel

end Slashes

end PyRuntime
