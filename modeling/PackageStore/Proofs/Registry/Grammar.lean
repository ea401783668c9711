import Mathlib
import PackageStore.Proofs.Json.Members
import PackageStore.Proofs.Schema.Decides
import PackageStore.Registry.Fetch

/-!
Contract: the language of the registry's listings.

Owns: which documents are listings and of what, said without the checks, for any choice of texts;
and that a fetch gives the packages of a listing and fails on every other document.

Does not own: the decoding of documents.
-/

set_option autoImplicit false

namespace PackageStore

/-- A text in which no lone surrogate stands. -/
def Text.IsWellFormed (text : Text) : Prop :=
  text.plain?.isSome = true

namespace Registry

open Schema

/-! ## The grammar -/

section

variable (allowed : Text → Prop)

/-- A string of an allowed text stands for this text. -/
inductive IsText : Json → Text → Prop
  | string {text : Text} (may : allowed text) : IsText (.string text) text

inductive IsMetadata : Json → Metadata → Prop
  | object {members : List (Text × Json)} {metadata : Metadata}
      (name : HeldOrNot (IsText allowed) (Json.lookup "name" members) metadata.name)
      (description :
        HeldOrNot (IsText allowed) (Json.lookup "description" members) metadata.description)
      (image : HeldOrNot (IsText allowed) (Json.lookup "image" members) metadata.image)
      (externalUrl :
        HeldOrNot (IsText allowed) (Json.lookup "external_url" members) metadata.externalUrl)
      (currentVersion :
        HeldOrNot (IsText allowed) (Json.lookup "current_version" members) metadata.currentVersion) :
      IsMetadata (.object members) metadata

inductive IsPackage : Json → Package → Prop
  | object {members : List (Text × Json)} {record : Package}
      (package : HeldIn (IsText allowed) (Json.lookup "package" members) record.id.package)
      (publisher : HeldIn (IsText allowed) (Json.lookup "publisher" members) record.id.publisher)
      (metadata : HeldOrNot (IsMetadata allowed) (Json.lookup "metadata" members) record.metadata) :
      IsPackage (.object members) record

/-- What stands under a category: nothing, or an array with one package for each element. -/
inductive IsShelf : Option Json → List Package → Prop
  | absent : IsShelf none []
  | array {elements : List Json} {packages : List Package}
      (each : List.Forall₂ (IsPackage allowed) elements packages) :
      IsShelf (some (.array elements)) packages

/-- A listing and its packages, category by category. -/
inductive IsListing : Json → List Tagged → Prop
  | object {members : List (Text × Json)} (shelf : Category → List Package)
      (each : ∀ category : Category,
        IsShelf allowed (Json.lookup category.name members) (shelf category)) :
      IsListing (.object members)
        (Category.all.flatMap fun category => (shelf category).map (category, ·))

end

/-- Every text is allowed. -/
def AnyText (_ : Text) : Prop := True

/-! ## What the checks decide -/

theorem checkText_decides (value : Json) : Decides (checkText value) (IsText AnyText value) := by
  cases value with
  | string text =>
      refine (Decides.ok text).congr fun other => ⟨?_, ?_⟩
      · rintro rfl
        exact .string trivial
      · rintro ⟨-⟩
        rfl
  | _ => exact .fault _ fun text => nofun

theorem optionalText_decides (name : String) (members : List (Text × Json)) :
    Decides (optionalText name members)
      (HeldOrNot (IsText AnyText) (Json.lookup name members)) := by
  refine optional_decides name members fun value => ?_
  refine heldOrNot_decides (by rintro rfl; rfl) (fun present => ?_) (checkText_decides value) nofun
  cases value <;> first | exact absurd rfl present | rfl

theorem checkMetadata_decides (value : Json) :
    Decides (checkMetadata value) (IsMetadata AnyText value) := by
  refine model_decides "RegistryAppMetadata" (fun members => ?_) (fun value other => ?_)
    (fun value metadata holds => ?_) value
  · have names := (optionalText_decides "name" members).both Prod.mk
      (optionalText_decides "description" members)
    have links := (optionalText_decides "external_url" members).both Prod.mk
      (optionalText_decides "current_version" members)
    have imageAndLinks := (optionalText_decides "image" members).both Prod.mk links
    refine (names.both _ imageAndLinks).congr fun metadata => ⟨?_, ?_⟩
    · rintro ⟨_, _, ⟨_, _, name, description, rfl⟩,
        ⟨_, _, image, ⟨_, _, externalUrl, currentVersion, rfl⟩, rfl⟩, rfl⟩
      exact ⟨name, description, image, externalUrl, currentVersion⟩
    · rintro ⟨name, description, image, externalUrl, currentVersion⟩
      exact ⟨_, _, ⟨_, _, name, description, rfl⟩,
        ⟨_, _, image, ⟨_, _, externalUrl, currentVersion, rfl⟩, rfl⟩, rfl⟩
  · cases value <;> first | rfl | exact absurd rfl (other _)
  · cases holds
    exact ⟨_, rfl⟩

theorem checkOptionalMetadata_decides (value : Json) :
    Decides (checkOptionalMetadata value)
      (HeldOrNot (IsMetadata AnyText) (some value)) := by
  refine heldOrNot_decides (by rintro rfl; rfl) (fun present => ?_) (checkMetadata_decides value)
    nofun
  cases value <;> first | exact absurd rfl present | rfl

theorem checkPackage_decides (value : Json) :
    Decides (checkPackage value) (IsPackage AnyText value) := by
  refine model_decides "RegistryApp" (fun members => ?_) (fun value other => ?_)
    (fun value record holds => ?_) value
  · have identity := (required_decides "package" members checkText_decides).both
      (fun package publisher => (⟨publisher, package⟩ : Identity))
      (required_decides "publisher" members checkText_decides)
    have metadata := optional_decides "metadata" members checkOptionalMetadata_decides
    refine (identity.both _ metadata).congr fun record => ⟨?_, ?_⟩
    · rintro ⟨_, _, ⟨_, _, package, publisher, rfl⟩, metadata, rfl⟩
      exact ⟨package, publisher, metadata⟩
    · rintro ⟨package, publisher, metadata⟩
      exact ⟨_, _, ⟨_, _, package, publisher, rfl⟩, metadata, rfl⟩
  · cases value <;> first | rfl | exact absurd rfl (other _)
  · cases holds
    exact ⟨_, rfl⟩

theorem checkCategory_decides (members : List (Text × Json)) (category : Category) :
    Decides (checkCategory members category) (fun tagged =>
      ∃ packages, IsShelf AnyText (Json.lookup category.name members) packages ∧
        packages.map (category, ·) = tagged) := by
  refine Decides.map _ ?_
  unfold Schema.optional
  cases Json.lookup category.name members with
  | none =>
      refine (Decides.ok []).congr fun packages => ⟨?_, ?_⟩
      · rintro rfl
        exact .absent
      · rintro ⟨⟩
        rfl
  | some value =>
      refine Decides.under _ ?_
      by_cases isArray : ∃ elements, value = .array elements
      · obtain ⟨elements, rfl⟩ := isArray
        refine (Decides.items checkPackage_decides 0 elements).congr fun packages => ⟨.array, ?_⟩
        rintro ⟨⟩
        assumption
      · have refused : checkList checkPackage value = Checked.fault .notAList := by
          cases value <;> first | rfl | exact absurd ⟨_, rfl⟩ isArray
        rw [refused]
        refine .fault _ fun packages => ?_
        rintro ⟨⟩
        exact isArray ⟨_, rfl⟩

theorem checkCategories_decides (members : List (Text × Json)) {categories : List Category}
    (distinct : categories.Nodup) :
    Decides (checkCategories members categories) (fun tagged =>
      ∃ shelf : Category → List Package,
        (∀ category ∈ categories,
          IsShelf AnyText (Json.lookup category.name members) (shelf category)) ∧
        (categories.flatMap fun category => (shelf category).map (category, ·)) = tagged) := by
  induction categories with
  | nil =>
      refine (Decides.ok []).congr fun tagged => ⟨?_, ?_⟩
      · rintro rfl
        exact ⟨fun _ => [], nofun, rfl⟩
      · rintro ⟨_, -, rfl⟩
        rfl
  | cons category rest inductionHypothesis =>
      obtain ⟨fresh, distinctRest⟩ := List.nodup_cons.mp distinct
      refine ((checkCategory_decides members category).both _
        (inductionHypothesis distinctRest)).congr fun tagged => ⟨?_, ?_⟩
      · rintro ⟨_, _, ⟨packages, holds, rfl⟩, ⟨shelf, each, rfl⟩, rfl⟩
        -- The shelves of the rest stay what they are, because the category is not among them.
        have others : ∀ other ∈ rest, Function.update shelf category packages other = shelf other :=
          fun other among => Function.update_of_ne (ne_of_mem_of_not_mem among fresh) _ _
        refine ⟨Function.update shelf category packages, fun other among => ?_, ?_⟩
        · rcases List.mem_cons.mp among with rfl | among
          · rw [Function.update_self]
            exact holds
          · rw [others other among]
            exact each other among
        · rw [List.flatMap_cons, Function.update_self]
          congr 1
          exact List.flatMap_congr fun other among => by rw [others other among]
      · rintro ⟨shelf, each, rfl⟩
        exact ⟨_, _, ⟨shelf category, each category List.mem_cons_self, rfl⟩,
          ⟨shelf, fun other among => each other (List.mem_cons_of_mem _ among), rfl⟩, rfl⟩

theorem checkListing_decides (payload : Json) :
    Decides (checkListing payload) (IsListing AnyText payload) := by
  refine model_decides "RegistryAppsResponse" (fun members => ?_) (fun value other => ?_)
    (fun value tagged holds => ?_) payload
  · refine (checkCategories_decides members (show Category.all.Nodup by decide)).congr
      fun tagged => ⟨?_, ?_⟩
    · rintro ⟨shelf, each, rfl⟩
      exact .object shelf fun category => each category category.mem_all
    · rintro ⟨shelf, each⟩
      exact ⟨shelf, fun category _ => each category, rfl⟩
  · cases value <;> first | rfl | exact absurd rfl (other _)
  · cases holds
    exact ⟨_, rfl⟩

/-! ## Fetching -/

/-- A successful response with a JSON document is read as the checks of the document decide. -/
theorem readAnswer_of_payload {url : String} {status : Int} {body : List UInt8} {payload : Json}
    (served : Url.target url = .ok .server) (success : isSuccess status = true)
    (decoded : Json.ofBytes body = .ok payload) :
    readAnswer url (.response status body) =
      (checkListing payload).mapError fun issues => .fetch (.malformed url issues) := by
  unfold readAnswer readResponse readBody
  rw [served]
  simp only [success, decoded, if_true]
  cases checkListing payload <;> rfl

/-- **A fetch reads the grammar of listings.** A fetch that is answered with a JSON document gives
exactly the packages that the grammar finds in it, or else fails with an account of at least one
issue. The fields of a package are the texts that stand in the document, whatever they hold. Of
members that were written under one name the last one counts. -/
theorem readAnswer_grammar (url : String) (status : Int) (body : List UInt8) (payload : Json)
    (served : Url.target url = .ok .server) (success : isSuccess status = true)
    (decoded : Json.ofBytes body = .ok payload) :
    (∀ tagged, readAnswer url (.response status body) = .ok tagged ↔
      IsListing AnyText payload tagged) ∧
    ((∀ tagged, ¬ IsListing AnyText payload tagged) →
      ∃ issues, issues ≠ [] ∧
        readAnswer url (.response status body) = .error (.fetch (.malformed url issues))) ∧
    ∀ name (written : List (Text × Json)), (Json.ofMembers written).member? name =
      (written.reverse.find? fun member => member.1 = .ofString name).map Prod.snd := by
  have decides := checkListing_decides payload
  rw [readAnswer_of_payload served success decoded]
  refine ⟨fun tagged => ?_, fun none => ?_, fun name written => Json.member?_ofMembers name written⟩
  · rw [← decides.ok_iff]
    cases checkListing payload <;> simp [Except.mapError]
  · cases outcome : checkListing payload with
    | ok tagged => exact absurd ((decides.ok_iff tagged).mp outcome) (none tagged)
    | error issues =>
        refine ⟨issues, ?_, rfl⟩
        rintro rfl
        exact decides.reports outcome

/-- The body `[downloaded: [package: a, publisher: b, metadata: [image: U+D800]]]`, the image a lone
surrogate by its escape. -/
def tornImage : List UInt8 :=
  ("\x7b\"downloaded\":[\x7b\"package\":\"a\",\"publisher\":\"b\","
    ++ "\"metadata\":\x7b\"image\":\"\\ud800\"\x7d\x7d]\x7d").toUTF8.toList

def tornImageMetadata : Json :=
  .object [("image", .string ⟨[0xD800]⟩)]

def tornImagePayload : Json :=
  .object [("downloaded", .array [.object [("package", .text "a"),
    ("publisher", .text "b"), ("metadata", tornImageMetadata)]])]

def tornImageRecord : Package :=
  ⟨⟨"b", "a"⟩, some ⟨none, none, some ⟨[0xD800]⟩, none, none⟩⟩

theorem detect_tornImage : Json.Encoding.detect tornImage = (.utf8, 0, false) := by
  have bytes : tornImage = 0x7B :: 0x22 :: 0x64 :: 0x6F :: tornImage.drop 4 := by cbv
  rw [bytes]
  rfl

theorem ofBytes_tornImage : Json.ofBytes tornImage = .ok tornImagePayload := by
  unfold Json.ofBytes Json.decode
  rw [detect_tornImage]
  cbv

theorem readAnswer_grammar_tornImage :
    (Url.target "http://node.test/apps" = .ok .server ∧ isSuccess 200 = true ∧
      Json.ofBytes tornImage = .ok tornImagePayload) ∧
    readAnswer "http://node.test/apps" (.response 200 tornImage) =
      .ok [(.downloaded, tornImageRecord)] := by
  refine ⟨⟨rfl, rfl, ofBytes_tornImage⟩, ?_⟩
  refine ((readAnswer_grammar "http://node.test/apps" 200 tornImage tornImagePayload rfl rfl
    ofBytes_tornImage).1 _).mpr ?_
  refine .object (fun category => if category = .downloaded then [tornImageRecord] else [])
    fun category => ?_
  cases category with
  | downloaded =>
      refine .array (.cons
        (.object ⟨_, rfl, .string trivial⟩ ⟨_, rfl, .string trivial⟩ (.given ?_)) .nil)
      exact .object .absent .absent (.given (.string trivial)) .absent .absent
  | installed => exact .absent
  | localOnly => exact .absent
  | system => exact .absent

/-- A lone surrogate is no text of well-formed Unicode, and is let through all the same. -/
theorem accepts_torn_image :
    ¬ ∀ (url : String) (status : Int) (body : List UInt8) (payload : Json) (tagged : List Tagged),
      Url.target url = .ok .server → isSuccess status = true → Json.ofBytes body = .ok payload →
        (readAnswer url (.response status body) = .ok tagged ↔
          IsListing Text.IsWellFormed payload tagged) := by
  intro claim
  have fetched : readAnswer "http://node.test/apps" (.response 200 tornImage) =
      .ok [(.downloaded, tornImageRecord)] := by
    rw [readAnswer_of_payload rfl rfl ofBytes_tornImage]
    rfl
  have listing := (claim _ 200 tornImage _ _ rfl rfl ofBytes_tornImage).mp fetched
  generalize [(Category.downloaded, tornImageRecord)] = tagged at listing
  obtain ⟨shelf, each⟩ := listing
  have downloaded : IsShelf Text.IsWellFormed (some (.array [_])) (shelf .downloaded) :=
    each .downloaded
  generalize shelf .downloaded = packages at downloaded
  obtain ⟨⟩ | ⟨⟨⟩ | ⟨⟨-, -, metadata⟩, -⟩⟩ := downloaded
  have metadata : HeldOrNot (IsMetadata Text.IsWellFormed) (some tornImageMetadata) _ := metadata
  obtain ⟨_, -, ⟨-, -, image, -, -⟩⟩ := metadata.holds_of_ne_null nofun
  obtain ⟨_, -, ⟨torn⟩⟩ := image.holds_of_ne_null nofun
  exact nomatch torn

end Registry

end PackageStore
