import Mathlib.Data.List.Dedup
import Mathlib.Data.List.Induction
import Mathlib.Data.List.Sort
import Stencil.Proofs.Manifest

/-!
# Runs of a builder

A builder is asked to take files, to count them and to make a manifest, in any order.  What it answers depends
only on the files that it accepted before and on whether it has made a manifest, and every manifest that it makes
holds the last file that it accepted for each path.
-/

namespace Stencil.ManifestBuilder

/-- What a builder is asked for. -/
inductive Request
  /-- To take a file. -/
  | add (file : ProjectFile)
  /-- To count its files. -/
  | size
  /-- To make a manifest. -/
  | build
deriving DecidableEq

/-- What a builder answers. -/
inductive Answer
  /-- The file is taken, and this is reported. -/
  | taken (log : List Log.Entry)
  /-- The file is refused. -/
  | refused (fault : ManifestFault)
  /-- The number of files. -/
  | size (count : Nat)
  /-- A manifest. -/
  | built (m : Manifest)

/-- Serves one request. -/
def serve (b : ManifestBuilder) : Request → ManifestBuilder × Answer
  | .add file =>
    match b.add file with
    | .ok (b, log) => (b, .taken log)
    | .error fault => (b, .refused fault)
  | .size => (b, .size b.size)
  | .build => (b.build.2, .built b.build.1)

/-- Serves requests one after the other. -/
def serveAll (b : ManifestBuilder) : List Request → ManifestBuilder × List Answer
  | [] => (b, [])
  | request :: rest =>
    let (b, answer) := b.serve request
    let (b, answers) := b.serveAll rest
    (b, answer :: answers)

/-- The file that a request and its answer make an accepted one. -/
def accepted? : Request × Answer → Option ProjectFile
  | (.add file, .taken _) => some file
  | _ => none

/-- A new builder after requests. -/
def after (allow : Bool) (requests : List Request) : ManifestBuilder :=
  (serveAll { allowCollisions := allow } requests).1

/-- The answers of a new builder to requests. -/
def answers (allow : Bool) (requests : List Request) : List Answer :=
  (serveAll { allowCollisions := allow } requests).2

/-- The files that a new builder accepts when it serves requests, in order. -/
def accepted (allow : Bool) (requests : List Request) : List ProjectFile :=
  (requests.zip (answers allow requests)).filterMap accepted?

/-- The last of some files that has a path. -/
def lastOf (files : List ProjectFile) (path : String) : Option ProjectFile :=
  (files.filter (·.path = path)).getLast?

/-! ## One request -/

theorem serveAll_concat (b : ManifestBuilder) (requests : List Request) (request : Request) :
    b.serveAll (requests ++ [request]) =
      (((b.serveAll requests).1.serve request).1,
        (b.serveAll requests).2 ++ [((b.serveAll requests).1.serve request).2]) := by
  induction requests generalizing b with
  | nil => rfl
  | cons first rest induction => simp only [List.cons_append, serveAll, induction]

theorem length_serveAll (b : ManifestBuilder) (requests : List Request) :
    (b.serveAll requests).2.length = requests.length := by
  induction requests generalizing b with
  | nil => rfl
  | cons first rest induction => rw [serveAll, List.length_cons, induction, List.length_cons]

theorem after_concat (allow : Bool) (requests : List Request) (request : Request) :
    after allow (requests ++ [request]) = ((after allow requests).serve request).1 := by
  rw [after, serveAll_concat, after]

theorem accepted_concat (allow : Bool) (requests : List Request) (request : Request) :
    accepted allow (requests ++ [request]) = accepted allow requests ++
      (accepted? (request, ((after allow requests).serve request).2)).toList := by
  have aligned : requests.length = (serveAll { allowCollisions := allow } requests).2.length :=
    (length_serveAll _ requests).symm
  rw [accepted, answers, serveAll_concat, List.zip_append aligned, List.filterMap_append, accepted, answers]
  congr 1

theorem get?_eq_lastOf {allow closed : Bool} {files : List ProjectFile} (path : String) :
    (ManifestBuilder.mk allow (gather files) closed).get? path = lastOf files path := by
  cases found : (ManifestBuilder.mk allow (gather files) closed).get? path with
  | some file => exact (mem_gather_iff.mp (mem_of_get? found)).symm
  | none =>
      have absent : path ∉ (gather files).map (·.1) := get?_eq_none_iff.mp found
      rw [mem_paths_gather_iff] at absent
      refine (List.getLast?_eq_none_iff.mpr (List.filter_eq_nil_iff.mpr fun file known same => ?_)).symm
      exact absent (List.mem_map.mpr ⟨file, known, by simpa using same⟩)

/-- How a builder answers that has accepted some files and is closed or open. -/
theorem serve_gather (allow closed : Bool) (files : List ProjectFile) (request : Request) :
    (ManifestBuilder.mk allow (gather files) closed).serve request =
      match request with
      | .add file =>
        if closed then (⟨allow, gather files, closed⟩, .refused .closed)
        else match lastOf files file.path with
          | none => (⟨allow, gather (files ++ [file]), closed⟩, .taken [])
          | some existing =>
            if allow then (⟨allow, gather (files ++ [file]), closed⟩,
              .taken [⟨.warning, sourceText file ++ " replaces " ++ sourceText existing ++ " at " ++ file.path⟩])
            else (⟨allow, gather files, closed⟩, .refused (.collision file.path (origin existing) (origin file)))
      | .size => (⟨allow, gather files, closed⟩, .size (gather files).length)
      | .build => (⟨allow, gather files, true⟩, .built (.ofEntries (gather files))) := by
  cases request with
  | size => rfl
  | build => rfl
  | add file =>
      rw [serve, add, get?_eq_lastOf]
      dsimp only
      cases closed with
      | true => rfl
      | false =>
          rw [gather_concat]
          cases lastOf files file.path with
          | none => rfl
          | some existing => cases allow <;> rfl

/-! ## Runs -/

/-- A new builder that has served requests holds the files that it accepted, and is closed once it was asked for
a manifest. -/
theorem after_eq (allow : Bool) (requests : List Request) :
    after allow requests = ⟨allow, gather (accepted allow requests), decide (.build ∈ requests)⟩ := by
  induction requests using List.reverseRecOn with
  | nil => rfl
  | append_singleton requests request induction =>
      rw [after_concat, accepted_concat, induction, serve_gather]
      cases request with
      | size => simp [accepted?]
      | build => simp [accepted?]
      | add file =>
          by_cases built : .build ∈ requests
          · simp [built, accepted?]
          · cases found : lastOf (accepted allow requests) file.path with
            | none => simp [built, found, accepted?]
            | some existing => cases allow <;> simp [built, found, accepted?]

theorem mem_answers_concat {allow : Bool} {requests : List Request} {request : Request} {answer : Answer} :
    answer ∈ answers allow (requests ++ [request]) ↔
      answer ∈ answers allow requests ∨ answer = ((after allow requests).serve request).2 := by
  rw [answers, serveAll_concat, List.mem_append, List.mem_singleton, answers, after]

/-- The manifest of accepted files. -/
def manifestOf (files : List ProjectFile) : Manifest :=
  .ofEntries (gather files)

/-- Every manifest that was made holds the files that are accepted in the end: none was accepted behind it. -/
theorem eq_manifestOf_of_built {allow : Bool} {requests : List Request} {m : Manifest}
    (built : .built m ∈ answers allow requests) :
    .build ∈ requests ∧ m = manifestOf (accepted allow requests) := by
  induction requests using List.reverseRecOn with
  | nil => cases built
  | append_singleton requests request induction =>
      rw [accepted_concat]
      rcases mem_answers_concat.mp built with earlier | last
      · obtain ⟨asked, rfl⟩ := induction earlier
        refine ⟨List.mem_append_left _ asked, ?_⟩
        rw [after_eq, serve_gather]
        cases request <;> simp [asked, accepted?]
      · rw [after_eq, serve_gather] at last ⊢
        cases request with
        | size => cases last
        | build =>
            cases last
            exact ⟨by simp, by simp [accepted?, manifestOf]⟩
        | add file =>
            dsimp only at last
            split at last
            · cases last
            · split at last
              · cases last
              · split at last <;> cases last

theorem mem_manifestOf {files : List ProjectFile} {path : String} {file : ProjectFile} :
    (path, file) ∈ (manifestOf files).entries ↔ lastOf files path = some file := by
  rw [manifestOf, Manifest.mem_ofEntries_iff (nodup_gather files), mem_gather_iff, lastOf]

theorem manifestOf_congr {files others : List ProjectFile} (same : ∀ path, lastOf files path = lastOf others path) :
    manifestOf files = manifestOf others := by
  have irreflexive : Std.Irrefl fun a b : String × ProjectFile => a.1 < b.1 := ⟨fun a => lt_irrefl a.1⟩
  have antisymmetric : Std.Antisymm fun a b : String × ProjectFile => a.1 < b.1 :=
    ⟨fun a b before after => absurd after (lt_asymm before)⟩
  have entries : (manifestOf files).entries = (manifestOf others).entries := by
    apply (Manifest.ofEntries_ascending _).eq_of_mem_iff (Manifest.ofEntries_ascending _)
    rintro ⟨path, file⟩
    refine mem_manifestOf.trans (Iff.trans ?_ mem_manifestOf.symm)
    rw [same path]
  exact congrArg Manifest.mk entries

/-- As many files are held as different paths were accepted. -/
theorem length_gather (files : List ProjectFile) :
    (gather files).length = (files.map (·.path)).dedup.length := by
  have same : ((gather files).map (·.1)).Perm (files.map (·.path)).dedup := by
    refine (List.perm_ext_iff_of_nodup (nodup_gather files) (List.nodup_dedup _)).mpr fun path => ?_
    rw [mem_paths_gather_iff, List.mem_dedup]
  rw [← same.length_eq, List.length_map]

theorem lastOf_ne_none_iff {files : List ProjectFile} {path : String} :
    lastOf files path ≠ none ↔ path ∈ files.map (·.path) := by
  rw [lastOf, ne_eq, List.getLast?_eq_none_iff, List.filter_eq_nil_iff]
  simp

/-- Without collisions no path is accepted twice. -/
theorem nodup_accepted (requests : List Request) : ((accepted false requests).map (·.path)).Nodup := by
  induction requests using List.reverseRecOn with
  | nil => exact .nil
  | append_singleton requests request induction =>
      rw [accepted_concat, after_eq, serve_gather]
      cases request with
      | size => simpa [accepted?] using induction
      | build => simpa [accepted?] using induction
      | add file =>
          by_cases built : .build ∈ requests
          · simpa [built, accepted?] using induction
          · cases found : lastOf (accepted false requests) file.path with
            | some existing => simpa [built, found, accepted?] using induction
            | none =>
                have fresh : file.path ∉ (accepted false requests).map (·.path) :=
                  fun known => lastOf_ne_none_iff.mpr known found
                simpa [built, found, accepted?, List.nodup_append, induction] using fresh

theorem lastOf_eq_some_iff_of_nodup {files : List ProjectFile} (distinct : (files.map (·.path)).Nodup) {path : String}
    {file : ProjectFile} : lastOf files path = some file ↔ file ∈ files ∧ file.path = path := by
  constructor
  · intro last
    simpa using List.mem_of_getLast? last
  · rintro ⟨known, rfl⟩
    obtain ⟨last, found⟩ := Option.ne_none_iff_exists'.mp (lastOf_ne_none_iff.mpr (List.mem_map_of_mem known))
    have member : last ∈ files ∧ last.path = file.path := by simpa using List.mem_of_getLast? found
    rw [found, List.inj_on_of_nodup_map distinct member.1 known member.2]

/-- What a new builder does when it has served requests: it goes by the files that it accepted and by whether it
was asked for a manifest. -/
structure Serves (allow : Bool) (requests : List Request) : Prop where
  /-- It takes a file whose path is new. -/
  fresh : ∀ file, .build ∉ requests → file.path ∉ (accepted allow requests).map (·.path) →
    ((after allow requests).serve (.add file)).2 = .taken [] ∧
      accepted allow (requests ++ [.add file]) = accepted allow requests ++ [file]
  /-- Where collisions are disallowed, it refuses a file whose path is not new, and stays as it is. -/
  collision : ∀ file existing, .build ∉ requests → lastOf (accepted allow requests) file.path = some existing →
    allow = false → (after allow requests).serve (.add file) =
      (after allow requests, .refused (.collision file.path (origin existing) (origin file)))
  /-- Where collisions are allowed, it takes the file instead of the one that is there. -/
  replacement : ∀ file existing, .build ∉ requests → lastOf (accepted allow requests) file.path = some existing →
    allow = true → ((after allow requests).serve (.add file)).2 =
        .taken [⟨.warning, sourceText file ++ " replaces " ++ sourceText existing ++ " at " ++ file.path⟩] ∧
      accepted allow (requests ++ [.add file]) = accepted allow requests ++ [file]
  /-- Once it was asked for a manifest, it refuses every file, and stays as it is. -/
  closed : ∀ file, .build ∈ requests →
    (after allow requests).serve (.add file) = (after allow requests, .refused .closed)
  /-- It counts the different paths that it accepted. -/
  size : (after allow requests).serve .size =
    (after allow requests, .size ((accepted allow requests).map (·.path)).dedup.length)
  /-- It holds every file under its path. -/
  keys : ∀ entry ∈ (after allow requests).entries, entry.1 = entry.2.path
  /-- It holds the last file that it accepted for a path. -/
  last : ∀ path, (after allow requests).get? path = lastOf (accepted allow requests) path
  /-- The manifest that it makes holds these files, and their paths ascend. -/
  manifest : ∃ m, ((after allow requests).serve .build).2 = .built m ∧ m.paths.Pairwise (· < ·) ∧
    ∀ path file, (path, file) ∈ m.entries ↔ lastOf (accepted allow requests) path = some file
  /-- All manifests that it has made are equal to the one that it makes now. -/
  agrees : ∀ m, .built m ∈ answers allow requests → ((after allow requests).serve .build).2 = .built m
  /-- Another run ends with an equal manifest if it accepted the same last files. -/
  determined : ∀ allow' requests',
    (∀ path, lastOf (accepted allow requests) path = lastOf (accepted allow' requests') path) →
      ((after allow requests).serve .build).2 = ((after allow' requests').serve .build).2
  /-- Where collisions are disallowed, the order in which the files were accepted does not matter. -/
  unordered : ∀ requests', allow = false → (accepted allow requests).Perm (accepted allow requests') →
    ((after allow requests).serve .build).2 = ((after allow requests').serve .build).2

theorem serve_build (allow : Bool) (requests : List Request) :
    ((after allow requests).serve .build).2 = .built (manifestOf (accepted allow requests)) := by
  rw [after_eq, serve_gather, manifestOf]

/-- For every sequence of requests, a new builder that has served it goes by the files that it accepted. -/
theorem serves (allow : Bool) (requests : List Request) : Serves allow requests where
  fresh file unbuilt fresh := by
    have absent : lastOf (accepted allow requests) file.path = none :=
      Classical.not_not.mp fun known => fresh (lastOf_ne_none_iff.mp known)
    rw [accepted_concat, after_eq, serve_gather]
    simp [unbuilt, absent, accepted?]
  collision file existing unbuilt found disallowed := by
    subst disallowed
    rw [after_eq, serve_gather]
    simp [unbuilt, found]
  replacement file existing unbuilt found allowed := by
    subst allowed
    rw [accepted_concat, after_eq, serve_gather]
    simp [unbuilt, found, accepted?]
  closed file asked := by
    rw [after_eq, serve_gather]
    simp [asked]
  size := by rw [after_eq, serve_gather, length_gather]
  keys entry member := by
    rw [after_eq] at member
    exact (mem_of_mem_gather member).2.symm
  last path := by rw [after_eq, get?_eq_lastOf]
  manifest :=
    ⟨_, serve_build allow requests, List.pairwise_map.mpr (Manifest.ofEntries_ascending _),
      fun _ _ => mem_manifestOf⟩
  agrees m built := by rw [serve_build, (eq_manifestOf_of_built built).2]
  determined allow' requests' same := by rw [serve_build, serve_build, manifestOf_congr same]
  unordered requests' disallowed reordered := by
    subst disallowed
    have same (path : String) :
        lastOf (accepted false requests) path = lastOf (accepted false requests') path := by
      refine Option.ext fun file => ?_
      rw [lastOf_eq_some_iff_of_nodup (nodup_accepted requests), lastOf_eq_some_iff_of_nodup (nodup_accepted requests'),
        reordered.mem_iff]
    rw [serve_build, serve_build, manifestOf_congr same]

example : answers true [.add ⟨"a", "1", .text, none⟩, .size, .add ⟨"a", "2", .text, none⟩, .build, .size] =
    [.taken [], .size 1, .taken [⟨.warning, "None replaces None at a"⟩],
      .built ⟨[("a", ⟨"a", "2", .text, none⟩)]⟩, .size 1] := by rfl

end Stencil.ManifestBuilder
