import Lxcup.Agent.Versions
import Lxcup.Lib.Utf8

/-!
# The artifacts of an agent

A new agent comes from the artifact store of the controller, as a binary with an entry in a
manifest.  Two programs take it from there: the worker, which deploys it to a machine, and the
updater on a Windows machine, which replaces the agent by itself.  Each has its own checks of the
manifest, the checksum and the header of the binary.

## Main definitions

* `ArtifactManifest`, `Sha256` — the manifest, and the function that gives a checksum.
* `Sha256.WritesHex` — what is known of the text of a checksum.
* `validateWindowsAmd64Pe`, `windowsArtifactHash`, `updaterAccepts` — the checks of the updater.
* `windowsPeIsAmd64`, `agentBinaryMatchesPlatform`, `workerAccepts` — the checks of the worker.

## Main results

* `validateWindowsAmd64Pe_iff` — the two checks of the header differ in the length that they ask
  for.
* `updaterAccepts_iff_workerAccepts` — when the two accept the same binary.
-/

namespace Lxcup.Updater

open Lxcup.Lib Lxcup.Agent

/-! ### Bytes -/

/-- `bytes.get(first..last)`. -/
def getBytes (first last : Nat) (bytes : List UInt8) : Option (List UInt8) :=
  if first ≤ last ∧ last ≤ bytes.length then some ((bytes.drop first).take (last - first)) else none

/-- `from_le_bytes`. -/
def fromLeBytes (bytes : List UInt8) : Nat := bytes.foldr (fun byte n => byte.toNat + 256 * n) 0

theorem length_of_getBytes {first last : Nat} {bytes part : List UInt8}
    (h : getBytes first last bytes = some part) : part.length = last - first := by
  unfold getBytes at h
  split at h
  case isTrue hle =>
    obtain rfl := Option.some.inj h
    rw [List.length_take, List.length_drop]
    omega
  case isFalse => exact absurd h nofun

/-- Numbers of one width have the same bytes only if they are equal. -/
theorem fromLeBytes_injective {a b : List UInt8} (hlength : a.length = b.length)
    (h : fromLeBytes a = fromLeBytes b) : a = b := by
  induction a generalizing b with
  | nil => exact (List.eq_nil_of_length_eq_zero hlength.symm).symm
  | cons x a ih =>
    cases b with
    | nil => exact absurd hlength (by simp)
    | cons y b =>
      have hx := x.toNat_lt
      have hy := y.toNat_lt
      have hsum : x.toNat + 256 * fromLeBytes a = y.toNat + 256 * fromLeBytes b := h
      have hhead : x = y := UInt8.toNat_inj.mp (by omega)
      rw [hhead, ih (Nat.succ.inj hlength) (by omega)]

/-! ### The header of a binary -/

/-- `validate_windows_amd64_pe`. -/
def validateWindowsAmd64Pe (bytes : List UInt8) : Except String Unit :=
  if bytes.length < 0x100 ∨ getBytes 0 2 bytes ≠ some [0x4d, 0x5a] then
    .error "artifact is not a valid Windows executable"
  else
    let peOffset := fromLeBytes ((bytes.drop 0x3c).take 4)
    match getBytes peOffset (peOffset + 26) bytes with
    | none => .error "invalid PE header"
    | some header =>
      let signature := fromLeBytes (header.take 4)
      let machine := fromLeBytes ((header.drop 4).take 2)
      let magic := fromLeBytes ((header.drop 24).take 2)
      if signature ≠ 0x4550 ∨ machine ≠ 0x8664 ∨ magic ≠ 0x020b then
        .error "artifact is not a PE32+ amd64 executable"
      else .ok ()

/-- `windows_pe_is_amd64`. -/
def windowsPeIsAmd64 (binary : List UInt8) : Bool :=
  if getBytes 0 2 binary ≠ some [0x4d, 0x5a] ∨ binary.length < 64 then false
  else
    match (getBytes 0x3c 0x40 binary).map fromLeBytes with
    | none => false
    | some peOffset =>
      match getBytes peOffset (peOffset + 26) binary with
      | none => false
      | some header =>
        getBytes 0 4 header = some [0x50, 0x45, 0, 0] && getBytes 4 6 header = some [0x64, 0x86]
          && getBytes 24 26 header = some [0x0b, 0x02]

/-- `agent_binary_matches_platform`. -/
def agentBinaryMatchesPlatform (binary : List UInt8) (platform : String) : Bool :=
  if platform = "windows-amd64" then windowsPeIsAmd64 binary
  else if binary.length < 20 ∨ getBytes 0 4 binary ≠ some [0x7f, 0x45, 0x4c, 0x46]
      ∨ binary[4]? ≠ some 2 ∨ binary[5]? ≠ some 1 then false
  else
    let machine := fromLeBytes ((binary.drop 18).take 2)
    (platform = "linux-amd64" && machine = 62) || (platform = "linux-arm64" && machine = 183)

/-- Two bytes of a header, as a number and as they are. -/
theorem getBytes_eq_iff (first width : Nat) {header expected : List UInt8}
    (hlength : first + width ≤ header.length) (hexpected : expected.length = width) :
    getBytes first (first + width) header = some expected ↔
      fromLeBytes ((header.drop first).take width) = fromLeBytes expected := by
  rw [getBytes, if_pos ⟨Nat.le_add_right first width, hlength⟩, Nat.add_sub_cancel_left,
    Option.some.injEq]
  constructor
  · exact congrArg fromLeBytes
  · refine fromLeBytes_injective ?_
    rw [List.length_take, List.length_drop, hexpected]
    omega

/-- **The two checks of a Windows binary agree**, but the updater asks for 256 bytes at least. -/
theorem validateWindowsAmd64Pe_iff (bytes : List UInt8) :
    validateWindowsAmd64Pe bytes = .ok () ↔
      0x100 ≤ bytes.length ∧ windowsPeIsAmd64 bytes = true := by
  unfold validateWindowsAmd64Pe windowsPeIsAmd64
  by_cases hlength : bytes.length < 0x100
  · rw [if_pos (.inl hlength)]
    exact ⟨nofun, fun h => absurd h.1 (Nat.not_le.mpr hlength)⟩
  have hle : 0x100 ≤ bytes.length := Nat.not_lt.mp hlength
  by_cases hmagic : getBytes 0 2 bytes = some [0x4d, 0x5a]
  case neg => simp [hmagic]
  have hoffset : getBytes 0x3c 0x40 bytes = some ((bytes.drop 0x3c).take 4) := by
    rw [getBytes, if_pos ⟨by decide, by omega⟩]
  rw [if_neg (by simp [hmagic, hle]), if_neg (by simp [hmagic]; omega), hoffset, Option.map_some]
  dsimp only
  split
  case h_1 => simp
  case h_2 header hheader =>
    have hheader : header.length = 26 := by
      rw [length_of_getBytes hheader]
      omega
    have hsignature : getBytes 0 4 header = some [0x50, 0x45, 0, 0] ↔
        fromLeBytes (header.take 4) = 0x4550 :=
      getBytes_eq_iff 0 4 (by omega) rfl
    have hmachine : getBytes 4 6 header = some [0x64, 0x86] ↔
        fromLeBytes ((header.drop 4).take 2) = 0x8664 :=
      getBytes_eq_iff 4 2 (by omega) rfl
    have hformat : getBytes 24 26 header = some [0x0b, 0x02] ↔
        fromLeBytes ((header.drop 24).take 2) = 0x020b :=
      getBytes_eq_iff 24 2 (by omega) rfl
    simp only [hsignature, hmachine, hformat, Bool.and_eq_true, decide_eq_true_eq]
    split
    case isTrue hbad =>
      refine ⟨nofun, fun h => ?_⟩
      obtain ⟨-, ⟨hs, hm⟩, hf⟩ := h
      obtain hbad | hbad | hbad := hbad
      · exact absurd hs hbad
      · exact absurd hm hbad
      · exact absurd hf hbad
    case isFalse hgood =>
      simp only [not_or, not_not] at hgood
      exact ⟨fun _ => ⟨hle, ⟨hgood.1, hgood.2.1⟩, hgood.2.2⟩, fun _ => rfl⟩

/-! ### Manifests and checksums -/

structure ArtifactEntry where
  platform : String
  file : String
  sha256 : String
  deriving DecidableEq, Repr, Inhabited

structure ArtifactManifest where
  version : String
  artifacts : List ArtifactEntry
  deriving DecidableEq, Repr, Inhabited

/-- A digit as `{:x}` writes it. -/
def isLowerHex (c : Char) : Bool := isAsciiDigit c || (97 ≤ c.toNat && c.toNat ≤ 102)

/-- `is_ascii_hexdigit`. -/
def isHexdigit (c : Char) : Bool := isLowerHex c || (65 ≤ c.toNat && c.toNat ≤ 70)

/-- `format!("{:x}", Sha256::digest(bytes))`. -/
abbrev Sha256 := List UInt8 → String

/-- A checksum is written with 64 digits, the letters among them in lower case. -/
structure Sha256.WritesHex (sha : Sha256) : Prop where
  length : ∀ bytes, (sha bytes).toList.length = 64
  lowerHex : ∀ bytes, ∀ c ∈ (sha bytes).toList, isLowerHex c = true

/-- `is_sha256`. -/
def isSha256 (value : String) : Bool := value.utf8ByteSize = 64 && value.toList.all isHexdigit

/-- `eq_ignore_ascii_case`. -/
def eqIgnoreAsciiCase (a b : String) : Bool :=
  toAsciiLowercase a.toList = toAsciiLowercase b.toList

/-- `windows_artifact_hash`. -/
def windowsArtifactHash (manifest : ArtifactManifest) (version : String) :
    Except String String :=
  if manifest.version ≠ version then
    .error "artifact manifest version does not match the requested version"
  else
    match manifest.artifacts.filter fun artifact => artifact.platform = "windows-amd64" with
    | [] => .error "Windows amd64 artifact is missing"
    | artifact :: rest =>
      if rest ≠ [] ∨ artifact.file ≠ "windows-amd64.exe" ∨ !isSha256 artifact.sha256 then
        .error "Windows artifact manifest entry is invalid"
      else .ok artifact.sha256

/-- `MAX_AGENT_ARTIFACT_BYTES`. -/
def maxAgentArtifactBytes : Nat := 128 * 1024 * 1024

/-- The checks of `download_verified_windows_artifact` on a binary. -/
def verifyBinary (sha : Sha256) (expectedHash : String) (bytes : List UInt8) :
    Except String Unit :=
  if bytes = [] ∨ bytes.length > maxAgentArtifactBytes then
    .error "Windows agent artifact has an invalid size"
  else if !eqIgnoreAsciiCase (sha bytes) expectedHash then
    .error "Windows agent artifact checksum does not match the manifest"
  else validateWindowsAmd64Pe bytes

/-- The updater takes the binary for the version it was asked for, with the manifest that came with
it. -/
def UpdaterAccepts (sha : Sha256) (manifest : ArtifactManifest) (version : String)
    (bytes : List UInt8) : Prop :=
  validVersion version = true
    ∧ ∃ hash, windowsArtifactHash manifest version = .ok hash ∧ verifyBinary sha hash bytes = .ok ()

/-- A character of a file name in the artifact store. -/
def isFileChar (c : Char) : Bool := isAsciiAlphanumeric c || c ∈ ".-_".toList

/-- The name of an artifact's file, as `download` allows it. -/
def isArtifactFile (file : String) : Bool := file.toList ≠ [] && file.toList.all isFileChar

/-- The checks of `download` on a binary. -/
def matchesArtifact (sha : Sha256) (artifact : ArtifactEntry) (binary : List UInt8) : Bool :=
  sha binary = artifact.sha256
    && artifact.platform ∈ ["linux-amd64", "linux-arm64", "windows-amd64"]
    && agentBinaryMatchesPlatform binary artifact.platform

/-- The worker takes the binary for a Windows machine, which it asks for under the name in the
manifest. -/
def WorkerAccepts (sha : Sha256) (manifest : ArtifactManifest) (version : String)
    (bytes : List UInt8) : Prop :=
  manifest.version = version ∧ ∃ artifact,
    manifest.artifacts.find? (fun artifact => artifact.platform = "windows-amd64") = some artifact
      ∧ isArtifactFile artifact.file = true ∧ matchesArtifact sha artifact bytes = true

/-! ### Where the two agree -/

/-- The text of a checksum has no upper-case letters. -/
def IsLowerCase (value : String) : Prop := toAsciiLowercase value.toList = value.toList

section Agreement

variable {sha : Sha256} {manifest : ArtifactManifest} {version : String} {bytes : List UInt8}

theorem toLower_of_isLowerHex {c : Char} (h : isLowerHex c = true) : c.toLower = c := by
  unfold Char.toLower
  rw [dif_neg]
  rintro ⟨hlow, hhigh⟩
  simp only [isLowerHex, isAsciiDigit, Bool.or_eq_true, Bool.and_eq_true, decide_eq_true_eq,
    Char.toNat, UInt32.le_iff_toNat_le] at h hlow hhigh
  have hlow : 65 ≤ c.val.toNat := hlow
  have hhigh : c.val.toNat ≤ 90 := hhigh
  omega

theorem isLowerCase_digest (hsha : sha.WritesHex) (bytes : List UInt8) :
    IsLowerCase (sha bytes) := by
  have hmap := List.map_congr_left fun c hc => toLower_of_isLowerHex (hsha.lowerHex bytes c hc)
  exact hmap.trans (List.map_id' _)

theorem isSha256_digest (hsha : sha.WritesHex) (bytes : List UInt8) :
    isSha256 (sha bytes) = true := by
  have hascii : ∀ c ∈ (sha bytes).toList, c.val ≤ 127 := by
    intro c hc
    have hhex := hsha.lowerHex bytes c hc
    simp only [isLowerHex, isAsciiDigit, Bool.or_eq_true, Bool.and_eq_true, decide_eq_true_eq,
      Char.toNat] at hhex
    rw [UInt32.le_iff_toNat_le]
    have hval : c.val.toNat ≤ 127 := by omega
    exact hval
  rw [isSha256, utf8ByteSize_of_ascii hascii, hsha.length, Bool.and_eq_true, List.all_eq_true]
  exact ⟨rfl, fun c hc => Bool.or_eq_true_iff.mpr (.inl (hsha.lowerHex bytes c hc))⟩

/-- The entry of a manifest for Windows, if there is only one. -/
def OnlyWindows (manifest : ArtifactManifest) (artifact : ArtifactEntry) : Prop :=
  manifest.artifacts.filter (fun artifact => artifact.platform = "windows-amd64") = [artifact]

theorem windowsArtifactHash_eq_ok {hash : String} :
    windowsArtifactHash manifest version = .ok hash ↔
      manifest.version = version ∧ ∃ artifact, OnlyWindows manifest artifact
        ∧ artifact.file = "windows-amd64.exe" ∧ isSha256 artifact.sha256 = true
        ∧ artifact.sha256 = hash := by
  unfold windowsArtifactHash OnlyWindows
  split
  case isTrue hversion => exact ⟨nofun, fun h => absurd h.1 hversion⟩
  case isFalse hversion =>
    rw [not_not] at hversion
    split
    case h_1 hnone => simp [hnone]
    case h_2 artifact rest hsome =>
      rw [hsome]
      split
      case isTrue hbad =>
        refine ⟨nofun, fun h => ?_⟩
        obtain ⟨-, other, heq, hfile, hsha, -⟩ := h
        obtain ⟨rfl, rfl⟩ := List.cons.inj heq
        simp [hfile, hsha] at hbad
      case isFalse hgood =>
        simp only [not_or, not_not] at hgood
        obtain ⟨rfl, hfile, hsha⟩ := hgood
        constructor
        · intro h
          exact ⟨hversion, artifact, rfl, hfile, by simpa using hsha, Except.ok.inj h⟩
        · rintro ⟨-, other, heq, -, -, rfl⟩
          obtain ⟨rfl, -⟩ := List.cons.inj heq
          rfl

theorem verifyBinary_eq_ok {hash : String} :
    verifyBinary sha hash bytes = .ok () ↔
      bytes.length ≤ maxAgentArtifactBytes ∧ eqIgnoreAsciiCase (sha bytes) hash = true
        ∧ 0x100 ≤ bytes.length ∧ windowsPeIsAmd64 bytes = true := by
  rw [← validateWindowsAmd64Pe_iff]
  unfold verifyBinary
  split
  case isTrue hsize =>
    refine ⟨nofun, fun h => ?_⟩
    obtain ⟨hle, -, hpe⟩ := h
    obtain rfl | hgt := hsize
    · exact absurd ((validateWindowsAmd64Pe_iff _).mp hpe).1 (by simp)
    · exact absurd hle (Nat.not_le.mpr hgt)
  case isFalse hsize =>
    rw [not_or, Nat.not_lt] at hsize
    split
    case isTrue hhash => exact ⟨nofun, fun h => absurd h.2.1 (by simpa using hhash)⟩
    case isFalse hhash => exact ⟨fun h => ⟨hsize.2, by simpa using hhash, h⟩, fun h => h.2.2⟩

/-- **The updater and the worker agree** on the binaries of a manifest, up to this: the updater
asks for a version of the usual form, for one entry with the fixed name of the file and for a binary
of 256 bytes to 128 MiB, and the worker asks for a checksum in lower case. -/
theorem updaterAccepts_iff_workerAccepts (hsha : sha.WritesHex) (manifest : ArtifactManifest)
    (version : String) (bytes : List UInt8) :
    (UpdaterAccepts sha manifest version bytes ∧
        ∀ artifact, OnlyWindows manifest artifact → IsLowerCase artifact.sha256) ↔
      (WorkerAccepts sha manifest version bytes ∧ validVersion version = true
        ∧ 0x100 ≤ bytes.length ∧ bytes.length ≤ maxAgentArtifactBytes
        ∧ ∃ artifact, OnlyWindows manifest artifact ∧ artifact.file = "windows-amd64.exe") := by
  have hfind : ∀ artifact, OnlyWindows manifest artifact →
      manifest.artifacts.find? (fun artifact => artifact.platform = "windows-amd64")
        = some artifact := by
    intro artifact honly
    rw [← List.head?_filter, honly]
    rfl
  constructor
  · rintro ⟨⟨hvalid, hash, hmanifest, hbinary⟩, hlower⟩
    obtain ⟨hversion, artifact, honly, hfile, -, rfl⟩ := windowsArtifactHash_eq_ok.mp hmanifest
    obtain ⟨hmax, hhash, hmin, hpe⟩ := verifyBinary_eq_ok.mp hbinary
    have hsame : sha bytes = artifact.sha256 := by
      have hcase := of_decide_eq_true hhash
      rw [isLowerCase_digest hsha bytes, hlower artifact honly] at hcase
      exact String.toList_inj.mp hcase
    have hplatform : artifact.platform = "windows-amd64" := by
      simpa using List.find?_some (hfind artifact honly)
    refine ⟨⟨hversion, artifact, hfind artifact honly, ?_, ?_⟩, hvalid, hmin, hmax, artifact, honly,
      hfile⟩
    · rw [hfile]
      decide
    · simp [matchesArtifact, hsame, hplatform, agentBinaryMatchesPlatform, hpe]
  · rintro ⟨⟨hversion, artifact, hfound, hname, hmatches⟩, hvalid, hmin, hmax, other, honly, hfile⟩
    obtain rfl : artifact = other := Option.some.inj (hfound.symm.trans (hfind other honly))
    have hplatform : artifact.platform = "windows-amd64" := by
      simpa using List.find?_some hfound
    obtain ⟨hsame, hpe⟩ : sha bytes = artifact.sha256 ∧ windowsPeIsAmd64 bytes = true := by
      simpa [matchesArtifact, hplatform, agentBinaryMatchesPlatform] using hmatches
    refine ⟨⟨hvalid, artifact.sha256, windowsArtifactHash_eq_ok.mpr ⟨hversion, artifact, honly,
      hfile, ?_, rfl⟩, verifyBinary_eq_ok.mpr ⟨hmax, ?_, hmin, hpe⟩⟩, fun only h => ?_⟩
    · rw [← hsame]
      exact isSha256_digest hsha bytes
    · rw [hsame]
      exact decide_eq_true rfl
    · obtain ⟨rfl, -⟩ := List.cons.inj (honly.symm.trans h)
      rw [← hsame]
      exact isLowerCase_digest hsha bytes

end Agreement

/-- The smallest binary that both take: the header of a PE32+ file for amd64, and zeros. -/
def sampleBinary : List UInt8 :=
  [0x4d, 0x5a] ++ List.replicate 58 0 ++ [0x40, 0, 0, 0, 0x50, 0x45, 0, 0, 0x64, 0x86]
    ++ List.replicate 18 0 ++ [0x0b, 0x02] ++ List.replicate 166 0

/-- The checksums of this binary and of the empty one. -/
def sampleSha : Sha256 := fun bytes =>
  if bytes = sampleBinary then "228f47e1d41177fb11a95b237d5738131b6e44a586f217e8438b1a0b5fae3ae4"
  else "e3b0c44298fc1c149afbf4c8996fb92427ae41e4649b934ca495991b7852b855"

/-- A manifest with the binary beside one for Linux. -/
def sampleManifest : ArtifactManifest where
  version := "1.2.3"
  artifacts := [⟨"linux-amd64", "linux-amd64", sampleSha []⟩,
    ⟨"windows-amd64", "windows-amd64.exe", sampleSha sampleBinary⟩]

/-- The updater takes what the worker takes. -/
theorem updaterAccepts_sampleBinary :
    WorkerAccepts sampleSha sampleManifest "1.2.3" sampleBinary ∧
      UpdaterAccepts sampleSha sampleManifest "1.2.3" sampleBinary := by
  have hsha : Sha256.WritesHex sampleSha := by
    refine ⟨fun bytes => ?_, fun bytes => List.all_eq_true.mp ?_⟩ <;> unfold sampleSha <;> split <;>
      decide +kernel
  have hworker : WorkerAccepts sampleSha sampleManifest "1.2.3" sampleBinary :=
    ⟨rfl, ⟨"windows-amd64", "windows-amd64.exe", sampleSha sampleBinary⟩, by decide +kernel⟩
  have honly : OnlyWindows sampleManifest ⟨"windows-amd64", "windows-amd64.exe",
      sampleSha sampleBinary⟩ := by
    unfold OnlyWindows
    decide +kernel
  have hlength : sampleBinary.length = 0x100 := by
    simp only [sampleBinary, List.length_append, List.length_replicate, List.length_cons,
      List.length_nil]
  have hboth := (updaterAccepts_iff_workerAccepts hsha sampleManifest "1.2.3" sampleBinary).mpr
    ⟨hworker, by decide, hlength.ge, by rw [hlength]; decide, _, honly, rfl⟩
  exact ⟨hworker, hboth.1⟩

end Lxcup.Updater
