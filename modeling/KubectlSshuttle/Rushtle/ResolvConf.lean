import KubectlSshuttle.Lib.AddressParser
import KubectlSshuttle.Lib.Words

/-!
# Name servers of `resolv.conf`

The server asks the name servers that the pod's file lists; the client
redirects the queries to those that its own two files list, IPv4 addresses
only and each of them once.  Both recognize a line by the letters that it
starts with, where the resolver that they mirror recognizes it by its first
word.
-/

namespace KubectlSshuttle.Rushtle.ResolvConf

open KubectlSshuttle.Lib.RustText
open KubectlSshuttle.Lib.Address

/-! ## The readers -/

/-- What a line has to start with. -/
def keyword : Text := "nameserver".toList

/-- The text that both readers parse as an address. -/
def addressText (line : Text) : Option Text :=
  let line := trim line
  if line = [] ∨ line.head? = some '#' ∨ line.head? = some ';' then none
  else (stripPrefix keyword line).map trim

/-- The address that the server takes from a line. -/
def lineAddress (line : Text) : Option IpAddr :=
  (addressText line).bind parseIpAddr

/-- `parse_resolv_conf`, on a file that cannot be read or its contents. -/
def parseResolvConf (file : Option Text) : Option (List SocketAddr) :=
  file.map fun content =>
    (lines content).filterMap fun line =>
      (lineAddress line).map fun address => ⟨address, 53⟩

/-- `resolvers` -/
def resolvers (file : Option Text) : List SocketAddr :=
  let found := (parseResolvConf file).getD []
  if found = [] then [⟨.v4 ⟨1, 1, 1, 1⟩, 53⟩] else found

/-- `IpAddr::V4`, as a pattern -/
def ipv4? : IpAddr → Option Ipv4Addr
  | .v4 address => some address
  | .v6 _ => none

/-- The address that the client takes from a line. -/
def lineIpv4 (line : Text) : Option Ipv4Addr :=
  ((addressText line).bind parseIpAddr).bind ipv4?

/-- The addresses returned, and the set of those seen. -/
structure Nameservers where
  out : List Text
  seen : List Text

/-- A nameserver is kept at its first mention. -/
def Nameservers.readLine (found : Nameservers) (line : Text) : Nameservers :=
  match lineIpv4 line with
  | some address =>
      if found.seen.contains address.toText then found
      else
        { out := found.out ++ [address.toText]
          seen := address.toText :: found.seen }
  | none => found

/-- A file that cannot be read is passed over. -/
def Nameservers.readFile (found : Nameservers) :
    Option Text → Nameservers
  | none => found
  | some content => (lines content).foldl Nameservers.readLine found

/--
`read_local_nameservers_v4`, on `/etc/resolv.conf` and
`/run/systemd/resolve/resolv.conf`.
-/
def readLocalNameserversV4 (etc systemd : Option Text) : List Text :=
  ([etc, systemd].foldl Nameservers.readFile ⟨[], []⟩).out

theorem resolvers_ne_nil (file : Option Text) : resolvers file ≠ [] := by
  rw [resolvers]
  split
  · simp
  · next found => exact found

/-! ## The client's addresses, each once -/

theorem lineIpv4_eq (line : Text) :
    lineIpv4 line = (lineAddress line).bind ipv4? := rfl

/-- What the client has found on a list of lines. -/
structure Nameservers.Found (found : Nameservers)
    (addresses : List Ipv4Addr) : Prop where
  out : found.out = addresses.eraseDups.map Ipv4Addr.toText
  seen : ∀ address : Ipv4Addr,
    address.toText ∈ found.seen ↔ address ∈ addresses

theorem eraseDups_snoc (addresses : List Ipv4Addr) (address : Ipv4Addr) :
    (addresses ++ [address]).eraseDups =
      if address ∈ addresses then addresses.eraseDups
      else addresses.eraseDups ++ [address] := by
  rw [List.eraseDups_append]
  split
  · next member => simp [List.removeAll, member]
  · next absent => simp [List.removeAll, absent, List.eraseDups_cons]

theorem Nameservers.Found.readLine {found : Nameservers}
    {addresses : List Ipv4Addr} (known : found.Found addresses)
    (line : Text) :
    (found.readLine line).Found (addresses ++ (lineIpv4 line).toList) := by
  rw [Nameservers.readLine]
  cases named : lineIpv4 line with
  | none => simpa using known
  | some address =>
      rw [Option.toList_some]
      simp only [List.contains_iff_mem]
      by_cases old : address ∈ addresses
      · rw [if_pos ((known.seen address).mpr old)]
        constructor
        · rw [eraseDups_snoc, if_pos old]
          exact known.out
        · intro other
          rw [known.seen, List.mem_append, List.mem_singleton]
          exact ⟨.inl, fun member => member.elim id (· ▸ old)⟩
      · rw [if_neg (mt (known.seen address).mp old)]
        constructor
        · rw [eraseDups_snoc, if_neg old, known.out, List.map_append]
          rfl
        · intro other
          rw [List.mem_cons, known.seen, List.mem_append,
            List.mem_singleton, Ipv4Addr.toText_injective.eq_iff]
          exact or_comm

theorem Nameservers.Found.readFile {found : Nameservers}
    {addresses : List Ipv4Addr} (known : found.Found addresses)
    (file : Option Text) :
    (found.readFile file).Found (addresses ++
      ((file.map lines).getD []).filterMap lineIpv4) := by
  cases file with
  | none => simpa [Nameservers.readFile] using known
  | some content =>
      rw [Nameservers.readFile, Option.map_some, Option.getD_some]
      induction lines content generalizing found addresses with
      | nil => simpa using known
      | cons line rest induction =>
          have later := induction (known.readLine line)
          rw [List.append_assoc] at later
          rw [List.foldl_cons, List.filterMap_cons]
          cases named : lineIpv4 line with
          | none => simpa [named] using later
          | some address => simpa [named] using later

theorem Nameservers.found_both (etc systemd : Option Text) :
    ([etc, systemd].foldl Nameservers.readFile ⟨[], []⟩).Found
      (((etc.map lines).getD []).filterMap lineIpv4 ++
        ((systemd.map lines).getD []).filterMap lineIpv4) := by
  have start : Nameservers.Found ⟨[], []⟩ [] := by
    constructor
    · rfl
    · simp
  exact (start.readFile etc).readFile systemd

/-- `SocketAddr::V4`, without the port -/
def socketIpv4? (address : SocketAddr) : Option Ipv4Addr :=
  ipv4? address.ip

/-- The IPv4 addresses of a server's list are those that the client takes. -/
theorem filterMap_parseResolvConf (file : Option Text) :
    ((parseResolvConf file).getD []).filterMap socketIpv4? =
      ((file.map lines).getD []).filterMap lineIpv4 := by
  cases file with
  | none => rfl
  | some content =>
      rw [parseResolvConf, Option.map_some, Option.getD_some, Option.map_some,
        Option.getD_some, List.filterMap_filterMap]
      apply List.filterMap_congr
      intro line member
      rw [lineIpv4_eq]
      cases lineAddress line <;> rfl

/--
The client's name servers are the IPv4 addresses of what the server's reader
makes of its two files, each once and in the order of their first occurrence.
-/
theorem readLocalNameserversV4_eq (etc systemd : Option Text) :
    readLocalNameserversV4 etc systemd =
      (((parseResolvConf etc).getD [] ++
          (parseResolvConf systemd).getD []).filterMap
        socketIpv4?).eraseDups.map Ipv4Addr.toText := by
  rw [List.filterMap_append, filterMap_parseResolvConf,
    filterMap_parseResolvConf]
  exact (Nameservers.found_both etc systemd).out

/-! ## The reference -/

/--
The word that a line contributes: its second, if its first is `nameserver` in
upper or lower case.
-/
def contribution (line : Text) : Option Text :=
  match splitWhitespace line with
  | first :: second :: _ =>
      if first.map Char.toLower = keyword then some second else none
  | _ => none

/-- The addresses among the words that a file's lines contribute. -/
def contributed (content : Text) : List IpAddr :=
  ((lines content).filterMap contribution).filterMap parseIpAddr

/-- `read_to_string` of a file of these bytes, an error if not UTF-8. -/
def readToString (content : Bytes) : Option Text :=
  fromUtf8 content

/--
Both readers take from a file what the reference takes.  The reference is
about lines and words, and a byte that is not UTF-8 does not hide those around
it.
-/
structure FollowsReference (content : Bytes) : Prop where
  returned : parseResolvConf (readToString content) =
    some ((contributed (decodeLossy content)).map
      fun address => ⟨address, 53⟩)
  returnedV4 : readLocalNameserversV4 (readToString content) none =
    ((contributed (decodeLossy content)).filterMap
      ipv4?).eraseDups.map Ipv4Addr.toText
  /-- no line is accepted or dropped against the reference -/
  accepted : ∀ line ∈ lines (decodeLossy content),
    lineAddress line = (contribution line).bind parseIpAddr
  acceptedV4 : ∀ line ∈ lines (decodeLossy content),
    lineIpv4 line = ((contribution line).bind parseIpAddr).bind ipv4?

/-- A line on which the readers and the reference cannot differ. -/
structure PlainLine (line : Text) : Prop where
  /-- no address is glued to the keyword -/
  separated : ∀ glued, splitWhitespace line = [keyword ++ glued] →
    parseIpAddr glued = none
  /-- in front of an address there is the keyword itself, behind it nothing -/
  alone : ∀ first second more,
    splitWhitespace line = first :: second :: more →
      first.map Char.toLower = keyword → (parseIpAddr second).isSome →
        first = keyword ∧ more = []

/-- A file on which the readers and the reference cannot differ. -/
structure PlainFile (content : Bytes) (text : Text) : Prop where
  encoded : fromUtf8 content = some text
  plain : ∀ line ∈ lines text, PlainLine line

/-! ## What a line is read as -/

/-- Comments and empty lines do not start with the keyword anyway. -/
theorem addressText_eq (line : Text) :
    addressText line = (stripPrefix keyword (trim line)).map trim := by
  have starts : keyword.head? = some 'n' := by decide
  rw [addressText]
  split
  · next skipped =>
      cases found : stripPrefix keyword (trim line) with
      | none => rfl
      | some rest =>
          have letter : (trim line).head? = some 'n' := by
            rw [stripPrefix_eq_some.mp found, List.head?_append, starts]
            rfl
          rcases skipped with empty | comment | comment
          · rw [empty] at letter
            cases letter
          · rw [letter] at comment
            exact absurd comment (by decide)
          · rw [letter] at comment
            exact absurd comment (by decide)
  · rfl

/-- A text of several words is no address. -/
theorem parseIpAddr_trim_of_words {text first second : Text}
    {words : List Text}
    (several : splitWhitespace text = first :: second :: words) :
    parseIpAddr (trim text) = none := by
  cases parsed : parseIpAddr (trim text) with
  | none => rfl
  | some address =>
      have single := eq_trim_of_ink (ink_of_parseIpAddr parsed)
      rw [several] at single
      split at single
      · cases single
      · cases single

/-- The address that a line with the given words is read as. -/
def wordsAddress : List Text → Option IpAddr
  | [first] => (stripPrefix keyword first).bind parseIpAddr
  | [first, second] =>
      if first = keyword then parseIpAddr second else none
  | _ => none

/-- A word in front of whitespace starts with the keyword, if the line does. -/
theorem exists_glued {first rest behind : Text}
    (ends : ∀ char ∈ rest.head?, isWhitespace char = true)
    (starts : first ++ rest = keyword ++ behind) :
    ∃ glued, first = keyword ++ glued ∧ behind = glued ++ rest := by
  rcases List.append_eq_append_iff.mp starts with
    ⟨more, front, back⟩ | ⟨glued, front, back⟩
  · cases more with
    | nil => exact ⟨[], by simpa using front.symm, by simpa using back.symm⟩
    | cons char others =>
        have blank := ends char (by simp [back])
        have member : char ∈ keyword := by simp [front]
        have ink : keyword.all (fun char => !isWhitespace char) = true := by
          decide
        rw [List.all_eq_true] at ink
        simpa [blank] using ink char member
  · exact ⟨glued, front, back⟩

/-- Of a line that is one word, the rest behind the keyword is read. -/
theorem wordsAddress_singleton {first : Text} (isWord : IsWord first) :
    ((stripPrefix keyword first).map trim).bind parseIpAddr =
      wordsAddress [first] := by
  rw [wordsAddress]
  cases found : stripPrefix keyword first with
  | none => rfl
  | some glued =>
      have same : trim glued = glued := by
        have whole := stripPrefix_eq_some.mp found
        by_cases empty : glued = []
        · rw [empty]; rfl
        · refine IsWord.trim_eq ⟨empty, fun char member => ?_⟩
          exact isWord.ink char (by simp [whole, member])
      rw [Option.map_some, same]

/-- Of a line of several words, all that follows the keyword is read. -/
theorem wordsAddress_cons {first second rest : Text} {words : List Text}
    (isWord : IsWord first)
    (ends : ∀ char ∈ rest.head?, isWhitespace char = true)
    (later : splitWhitespace rest = second :: words) :
    ((stripPrefix keyword (first ++ rest)).map trim).bind parseIpAddr =
      wordsAddress (first :: second :: words) := by
  cases found : stripPrefix keyword (first ++ rest) with
  | none =>
      have apart : first ≠ keyword := by
        rintro rfl
        rw [stripPrefix_eq_some.mpr rfl] at found
        cases found
      cases words with
      | nil => rw [wordsAddress, if_neg apart]; rfl
      | cons third more => rfl
  | some behind =>
      rcases exists_glued ends (stripPrefix_eq_some.mp found) with
        ⟨glued, rfl, rfl⟩
      rw [Option.map_some, Option.bind_some]
      by_cases empty : glued = []
      · subst empty
        cases words with
        | nil =>
            rw [wordsAddress, if_pos (List.append_nil keyword),
              List.nil_append, trim_of_splitWhitespace_singleton later]
        | cons third more => exact parseIpAddr_trim_of_words later
      · have isGlued : IsWord glued :=
          ⟨empty, fun char member => isWord.ink char (by simp [member])⟩
        have spaced : Spaced ([] ++ (glued ++ rest))
            (glued :: splitWhitespace rest) :=
          .word (fun char member => by cases member) isGlued ends
            (spaced_splitWhitespace rest)
        have several := spaced.splitWhitespace_eq
        rw [List.nil_append, later] at several
        rw [parseIpAddr_trim_of_words several]
        cases words with
        | nil =>
            have apart : keyword ++ glued ≠ keyword := by simpa using empty
            rw [wordsAddress, if_neg apart]
        | cons third more => rfl

theorem lineAddress_eq (line : Text) :
    lineAddress line = wordsAddress (splitWhitespace line) := by
  rw [lineAddress, addressText_eq]
  cases shape : splitWhitespace line with
  | nil =>
      rw [trim_of_splitWhitespace_nil shape]
      decide
  | cons first words =>
      rcases trim_of_splitWhitespace_cons shape with
        ⟨rest, trimmed, isWord, ends, later, alone⟩
      rw [trimmed]
      cases words with
      | nil =>
          rw [alone rfl, List.append_nil]
          exact wordsAddress_singleton isWord
      | cons second more => exact wordsAddress_cons isWord ends later

/-! ## Where the readers follow the reference -/

theorem map_toLower_keyword : keyword.map Char.toLower = keyword := by decide

/-- A line is read as the reference has it exactly if it is plain. -/
theorem lineAddress_eq_contribution_iff (line : Text) :
    lineAddress line = (contribution line).bind parseIpAddr ↔
      PlainLine line := by
  rw [lineAddress_eq, contribution]
  rcases shape : splitWhitespace line with _ | ⟨first, _ | ⟨second, more⟩⟩
  · exact ⟨fun _ => ⟨by simp [shape], by simp [shape]⟩, fun _ => rfl⟩
  · have reads : wordsAddress [first] =
        (stripPrefix keyword first).bind parseIpAddr := rfl
    rw [reads, Option.bind_none]
    constructor
    · intro none
      refine ⟨?_, by simp [shape]⟩
      intro glued whole
      rcases List.cons.inj (shape.symm.trans whole) with ⟨rfl, _⟩
      rwa [stripPrefix_eq_some.mpr rfl] at none
    · intro plain
      cases found : stripPrefix keyword first with
      | none => rfl
      | some glued =>
          rw [stripPrefix_eq_some] at found
          exact plain.separated glued (by rw [shape, found])
  · dsimp only
    have unread (words : List Text) : wordsAddress (first :: second :: words) =
        if first = keyword ∧ words = [] then parseIpAddr second
        else none := by
      cases words with
      | nil => simp [wordsAddress]
      | cons third others => simp [wordsAddress]
    rw [unread]
    constructor
    · intro agrees
      refine ⟨by simp [shape], ?_⟩
      intro found next others whole lower isAddress
      rcases List.cons.inj (shape.symm.trans whole) with ⟨rfl, rest⟩
      rcases List.cons.inj rest with ⟨rfl, rfl⟩
      by_contra differs
      rw [if_neg differs, if_pos lower, Option.bind_some] at agrees
      rw [← agrees] at isAddress
      cases isAddress
    · intro plain
      by_cases lower : first.map Char.toLower = keyword
      · rw [if_pos lower, Option.bind_some]
        cases parsed : parseIpAddr second with
        | none => simp
        | some address =>
            rw [if_pos (plain.alone first second more shape lower
              (by simp [parsed]))]
      · have apart : first ≠ keyword := by
          rintro rfl
          exact lower map_toLower_keyword
        simp [apart, lower]

/--
Both readers take from a file what the reference takes exactly if the file is
UTF-8 and every line of it is plain; of any other encoding they take nothing.
-/
theorem followsReference_iff (content : Bytes) :
    FollowsReference content ↔ ∃ text, PlainFile content text := by
  constructor
  · intro follows
    cases decoded : fromUtf8 content with
    | none =>
        have returned := follows.returned
        rw [readToString, decoded] at returned
        cases returned
    | some text =>
        refine ⟨text, decoded, fun line member => ?_⟩
        rw [← decodeLossy_of_fromUtf8 decoded] at member
        exact (lineAddress_eq_contribution_iff line).mp
          (follows.accepted line member)
  · rintro ⟨text, decoded, plain⟩
    have lossless := decodeLossy_of_fromUtf8 decoded
    have accepted : ∀ line ∈ lines text,
        lineAddress line = (contribution line).bind parseIpAddr :=
      fun line member =>
        (lineAddress_eq_contribution_iff line).mpr (plain line member)
    constructor
    · rw [readToString, decoded, lossless, parseResolvConf, contributed,
        Option.map_some, List.filterMap_filterMap, List.map_filterMap]
      congr 1
      apply List.filterMap_congr
      intro line member
      rw [accepted line member]
    · have same : (contributed text).filterMap ipv4? =
          (lines text).filterMap lineIpv4 := by
        rw [contributed, List.filterMap_filterMap, List.filterMap_filterMap]
        apply List.filterMap_congr
        intro line member
        rw [lineIpv4_eq, accepted line member]
        cases contribution line <;> rfl
      have found := (Nameservers.found_both (some text) none).out
      rw [readToString, decoded, lossless, same, readLocalNameserversV4,
        found, Option.map_none, Option.getD_none, List.filterMap_nil,
        List.append_nil, Option.map_some, Option.getD_some]
    · rwa [lossless]
    · rw [lossless]
      intro line member
      rw [lineIpv4_eq, accepted line member]

/-- A comment behind an address hides the address. -/
theorem commented_nameserver_dropped :
    ¬ FollowsReference
      (utf8 "nameserver 10.96.0.10 # cluster\n".toList) := by
  intro follows
  have accepted := follows.accepted
  rw [decodeLossy_utf8] at accepted
  have read := accepted "nameserver 10.96.0.10 # cluster".toList (by decide)
  exact absurd read (by decide)

end KubectlSshuttle.Rushtle.ResolvConf
