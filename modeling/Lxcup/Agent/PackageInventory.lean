import Lxcup.Agent.WorkflowRounds

/-!
# Package listings of Windows hosts

`parse_windows_packages_json`, which reads the listing that the script on the host writes as one
JSON document.  Both sides use it: the agent for its inventory, and the server for the result of
an update scan.

The JSON library is not part of the program.  What it makes of a text is an argument, together
with three facts about documents that every JSON reader has to respect.

## Main definitions

* `WinGetPackage`, `AgentInstalledPackage` — an entry of the listing, and a package.
* `JsonReader`, `JsonReader.Lawful` — the reading of a listing, and what is assumed of it.
* `safeMsstoreId`, `safeReadOnlyWindowsPackageId` — ids of packages outside `winget`.
* `parseWindowsPackagesJson`.

## Main results

* `JsonReader.Lawful.read_safeDetail` — a listing survives the cut to one line of 240 characters
  exactly when it ends there.
-/

namespace Lxcup.Agent

open Lxcup.Lib Lxcup.Core

/-! ### Entries -/

/-- An entry of the listing, as far as it could be read. -/
structure WinGetPackage where
  id : Option String
  name : Option String
  version : Option String
  candidateVersion : Option String
  source : Option String
  deriving DecidableEq, Repr, Inhabited

/-- A package of a host. -/
structure AgentInstalledPackage where
  name : String
  installedVersion : String
  candidateVersion : Option String
  architecture : Option String
  source : Option String
  deriving DecidableEq, Repr, Inhabited

/-- `PackageInventoryError::from_code`. -/
def PackageInventoryError.fromCode (code : String) : Option PackageInventoryError :=
  [managerUnavailable, timeout, tooLarge, invalidOutput].find? fun error => error.code = code

/-- `safe_msstore_id`. -/
def safeMsstoreId (value : String) : Bool :=
  value.utf8ByteSize ≤ 128 && value.toList.head?.any isAsciiAlphanumeric
    && value.toList.all fun c => isAsciiAlphanumeric c || c ∈ "._-+".toList

/-- `safe_read_only_windows_package_id`. -/
def safeReadOnlyWindowsPackageId (value source : String) : Bool :=
  let pre := if source = "arp" then "ARP\\".toList else if source = "msix" then "MSIX\\".toList else []
  let cs := value.toList
  pre ≠ [] && value.utf8ByteSize ≤ 128
    && toAsciiLowercase (cs.take pre.length) = toAsciiLowercase pre
    && (cs.drop pre.length).all (fun c => isAsciiAlphanumeric c || c ∈ "\\_-.\x7b\x7d".toList)
    && cs.length > pre.length

/-- The source of a package, with the candidate for its update.  Packages from elsewhere than the
two package sources are listed without one. -/
def windowsPackageSource (package : WinGetPackage) (id : String) :
    Option (String × Option String) :=
  let reported := package.source.map fun source => toAsciiLowercase (trim source.toList)
  if reported = some "winget".toList ∧ safeWingetId id then
    some ("winget", package.candidateVersion)
  else if reported = some "msstore".toList ∧ safeMsstoreId id then
    some ("msstore", package.candidateVersion)
  else if safeReadOnlyWindowsPackageId id "arp" then some ("arp", none)
  else if safeReadOnlyWindowsPackageId id "msix" then some ("msix", none)
  else none

/-- A text with content, of a bounded size. -/
def boundedText (limit : Nat) (value : String) : Bool :=
  trim value.toList ≠ [] && value.utf8ByteSize ≤ limit

/-- The package of an entry, unless its id was seen before. -/
def installedPackage (seenIds : List (List Char)) (package : WinGetPackage) :
    Option AgentInstalledPackage :=
  match package.id, package.name, package.version with
  | some id, some name, some version =>
    match windowsPackageSource package id with
    | none => none
    | some (source, candidateVersion) =>
      if boundedText 256 name && boundedText 128 version && candidateVersion.all (boundedText 128)
          && !seenIds.contains (toAsciiLowercase id.toList) then
        some ⟨id, version, candidateVersion, none, some source⟩
      else none
  | _, _, _ => none

/-- The loop over the entries; those that cannot be used are passed over. -/
def installedPackages : List (List Char) → List (Option WinGetPackage) →
    List AgentInstalledPackage
  | _, [] => []
  | seenIds, entry :: entries =>
    match entry.bind (installedPackage seenIds) with
    | none => installedPackages seenIds entries
    | some package =>
      package :: installedPackages (toAsciiLowercase package.name.toList :: seenIds) entries

/-! ### Documents -/

/-- What is read of a text: the entries of a JSON array, `none` where one is not the object of a
package. -/
abbrev JsonReader := String → Option (List (Option WinGetPackage))

/-- `parse_windows_packages_json`. -/
def parseWindowsPackagesJson (read : JsonReader) (output : String) :
    Except PackageInventoryError (List AgentInstalledPackage) :=
  match read output with
  | none => .error .invalidOutput
  | some entries =>
    if entries.length > 50000 then .error .tooLarge
    else
      let packages := installedPackages [] entries
      if entries ≠ [] ∧ packages = [] then .error .invalidOutput else .ok packages

/-- The white space of JSON. -/
def isJsonWhitespace (c : Char) : Bool := c ∈ [' ', '\t', '\r', '\n']

/-- What `safe_detail` makes of a character. -/
def lineBreakToSpace (c : Char) : Char := if c = '\r' ∨ c = '\n' then ' ' else c

/-- What holds of every reader of JSON documents. -/
structure JsonReader.Lawful (read : JsonReader) : Prop where
  /-- Line breaks stand between the tokens of a document only, where spaces do as well. -/
  lineBreaks : ∀ cs entries, read (String.ofList cs) = some entries →
    read (String.ofList (cs.map lineBreakToSpace)) = some entries
  /-- White space at the end of a document is not part of it. -/
  trailing : ∀ cs rest entries, (∀ c ∈ rest, isJsonWhitespace c = true) →
    read (String.ofList (cs ++ rest)) = some entries → read (String.ofList cs) = some entries
  /-- After a document there is only white space. -/
  ends : ∀ cs rest entries entries', read (String.ofList cs) = some entries →
    read (String.ofList (cs ++ rest)) = some entries' → ∀ c ∈ rest, isJsonWhitespace c = true

/-- From the 241st character on there is only white space. -/
def fitsDetail (value : String) : Bool := (value.toList.drop 240).all isJsonWhitespace

theorem isJsonWhitespace_lineBreakToSpace (c : Char) :
    isJsonWhitespace (lineBreakToSpace c) = isJsonWhitespace c := by
  unfold lineBreakToSpace
  split
  · rename_i hbreak
    rcases hbreak with rfl | rfl <;> decide
  · rfl

theorem safeDetail_eq (value : String) :
    safeDetail value = String.ofList ((value.toList.take 240).map lineBreakToSpace) := by
  rw [List.map_take]
  rfl

/-- **A listing survives the cut to one line of 240 characters exactly when it ends there.** -/
theorem JsonReader.Lawful.read_safeDetail {read : JsonReader} (h : read.Lawful) {value : String}
    {entries : List (Option WinGetPackage)} (hread : read value = some entries) :
    read (safeDetail value) = if fitsDetail value then some entries else none := by
  -- the whole text on one line is read like the text
  have hline : read (String.ofList ((value.toList.take 240).map lineBreakToSpace ++
      (value.toList.drop 240).map lineBreakToSpace)) = some entries := by
    rw [← List.map_append, List.take_append_drop]
    exact h.lineBreaks _ _ (by rw [String.ofList_toList]; exact hread)
  have hrest : (∀ c ∈ (value.toList.drop 240).map lineBreakToSpace, isJsonWhitespace c = true) ↔
      fitsDetail value = true := by
    simp only [List.mem_map, forall_exists_index, and_imp, forall_apply_eq_imp_iff₂,
      isJsonWhitespace_lineBreakToSpace, fitsDetail, List.all_eq_true]
  rw [safeDetail_eq]
  split
  case isTrue hfits => exact h.trailing _ _ _ (hrest.mpr hfits) hline
  case isFalse hcut =>
    rw [Option.eq_none_iff_forall_ne_some]
    intro other hother
    exact hcut (hrest.mp (h.ends _ _ _ _ hother hline))

end Lxcup.Agent
