import LuaBinder.Proofs.Lua.Closure
import LuaBinder.Proofs.Store.Writing

/-!
Generating the bindings of a namespace against previewing them.

Both make the same files. A preview returns them, and a generation writes them below a directory in
order, the support header last and only where nothing stands at its path.

* `Overwrites`: files written in order, each over what was there; `Overwrites.holds` says what every
  location holds afterwards.
* `Run`: a run in which every write succeeds, `generate_eq_ok_iff`.
* `Run.again`: after such a run another one changes nothing and keeps the support header.
* `preview_error_iff`: a preview fails exactly when some text cannot be made.
* `generate_refines_preview`: all of these together.
-/

namespace LuaBinder.Lua

open Store FileSystem Text

variable {fs fs₁ fs₂ : FileSystem} {base : String} {file : GeneratedFile}
  {files sources : List GeneratedFile}

/-! ### Files in order -/

/-- Files written one after another below a directory, each over what was there. -/
inductive Overwrites (base : String) : FileSystem → List GeneratedFile → FileSystem → Prop where
  | nil {fs : FileSystem} : Overwrites base fs [] fs
  | cons {fs fs₁ fs₂ : FileSystem} {file : GeneratedFile} {files : List GeneratedFile}
      (first : write fs .always base file.path file.content = (fs₁, .ok .written))
      (rest : Overwrites base fs₁ files fs₂) :
    Overwrites base fs (file :: files) fs₂

/-- The last of some files whose path below a directory leads to a location. -/
def lastAt? (fs : FileSystem) (base : String) (files : List GeneratedFile) (l : Location) :
    Option GeneratedFile :=
  files.reverse.find? fun file => fs.locate? (join base file.path) == some l

/-- What stands after some files were written below a directory: the path of each leads somewhere,
a location holds the last file whose path leads there, every other file is as it was, and all
directories stay. -/
structure Holds (base : String) (fs : FileSystem) (files : List GeneratedFile) (fs' : FileSystem) :
    Prop where
  placed : ∀ file ∈ files, ∃ l, fs'.locate? (join base file.path) = some l
  contents : ∀ l, fs'.fileAt? l
    = ((lastAt? fs' base files l).map (·.content.toUTF8)).or (fs.fileAt? l)
  directories : ∀ l, fs.lookup? l = some .directory → fs'.lookup? l = some .directory

lemma lastAt?_cons (file : GeneratedFile) (files : List GeneratedFile) (l : Location) :
    lastAt? fs base (file :: files) l = (lastAt? fs base files l).or
      (if fs.locate? (join base file.path) = some l then some file else none) := by
  rw [lastAt?, List.reverse_cons, List.find?_append, List.find?_singleton, lastAt?]
  simp only [beq_iff_eq]

namespace Overwrites

lemma grows (h : Overwrites base fs files fs₁) : Grows fs fs₁ := by
  induction h with
  | nil => exact Grows.refl _
  | cons first _ ih =>
      obtain ⟨l, hputs, -⟩ := exists_puts_of_write first
      exact hputs.grows.trans ih

/-- All files stand in the end, and each could be written again. -/
lemma rewritable (h : Overwrites base fs files fs₁) :
    ∀ file ∈ files, ∃ l, Rewritable fs₁ (join base file.path) l := by
  induction h with
  | nil => exact List.forall_mem_nil _
  | cons first rest ih =>
      obtain ⟨l, -, hfirst⟩ := exists_puts_of_write first
      exact List.forall_mem_cons.mpr ⟨⟨l, hfirst.grow rest.grows⟩, ih⟩

/-- A later file wins over an earlier one. -/
lemma fileAt?_eq (h : Overwrites base fs files fs₁) (l : Location) :
    fs₁.fileAt? l = ((lastAt? fs₁ base files l).map (·.content.toUTF8)).or (fs.fileAt? l) := by
  induction h with
  | nil => rfl
  | @cons fs fs' fs₁ file files first rest ih =>
      obtain ⟨k, hputs, hfirst⟩ := exists_puts_of_write first
      rw [ih, hputs.fileAt?_eq, lastAt?_cons, (hfirst.grow rest.grows).located, Option.map_or,
        Option.or_assoc]
      by_cases heq : l = k
      · subst heq
        simp
      · rw [if_neg heq, if_neg (by simpa using Ne.symm heq), Option.map_none, Option.none_or]

lemma holds (h : Overwrites base fs files fs₁) : Holds base fs files fs₁ where
  placed file hfile := by
    obtain ⟨l, hl⟩ := h.rewritable file hfile
    exact ⟨l, hl.located⟩
  contents := h.fileAt?_eq
  directories _ hl := h.grows.directory hl

lemma append (h : Overwrites base fs files fs₁) (h' : Overwrites base fs₁ sources fs₂) :
    Overwrites base fs (files ++ sources) fs₂ := by
  induction h with
  | nil => exact h'
  | cons first _ ih => exact .cons first (ih h')

end Overwrites

/-- Files that stand can be written again, which changes no more than what files hold. -/
lemma exists_overwrites_again (h : ∀ file ∈ files, ∃ l, Rewritable fs (join base file.path) l) :
    ∃ fs₁, Overwrites base fs files fs₁ ∧ Refills fs fs₁ := by
  induction files generalizing fs with
  | nil => exact ⟨fs, .nil, Refills.refl fs⟩
  | cons file files ih =>
      obtain ⟨⟨l, hl⟩, hrest⟩ := List.forall_mem_cons.mp h
      have hfirst := write_of_rewritable hl file.content
      obtain ⟨k, hputs, -⟩ := exists_puts_of_write hfirst
      obtain ⟨fs₁, hover, hrefills⟩ := ih fun other hother =>
        (hrest other hother).imp fun _ hk => hk.grow hputs.grows
      exact ⟨fs₁, .cons hfirst hover, (refills_set hl.file _).trans hrefills⟩

/-! ### Runs -/

/-- A run in which every write succeeds: the sources are written over what was there, then the
support header, which is kept where something stands at its path. The run ends with the files that
were written and the paths that were kept. -/
inductive Run (base : String) (fs : FileSystem) (sources : List GeneratedFile) :
    List GeneratedFile → List String → FileSystem → Prop where
  | kept {fs₁ : FileSystem} (inOrder : Overwrites base fs sources fs₁)
      (stands : fs₁.exists? (join base supportFile.path) = true) :
    Run base fs sources sources [supportFile.path] fs₁
  | written {fs₁ fs₂ : FileSystem} (inOrder : Overwrites base fs sources fs₁)
      (absent : fs₁.exists? (join base supportFile.path) = false)
      (support : Overwrites base fs₁ [supportFile] fs₂) :
    Run base fs sources (sources ++ [supportFile]) [] fs₂

lemma write_always_eq_ok_iff {path content : String} {outcome : WriteOutcome} :
    write fs .always base path content = (fs₁, .ok outcome)
      ↔ write fs .always base path content = (fs₁, .ok .written) ∧ outcome = .written := by
  cases outcome with
  | written => simp
  | kept =>
      have hne : write fs .always base path content ≠ (fs₁, .ok .kept) := fun heq =>
        ne_kept_of_write_always (congrArg Prod.snd heq)
      simp [hne]

/-- The paths of written files are noted in order. -/
lemma writeAll_append_eq_ok_iff {done done' : Written} {rest : List (WriteRule × GeneratedFile)} :
    writeAll base fs done (files.map (.always, ·) ++ rest) = (fs₂, .ok done') ↔
      ∃ fs₁, Overwrites base fs files fs₁
        ∧ writeAll base fs₁ { done with written := done.written ++ files.map (·.path) } rest
          = (fs₂, .ok done') := by
  induction files generalizing fs done with
  | nil =>
      rw [List.map_nil, List.nil_append, List.map_nil, List.append_nil]
      constructor
      · exact fun h => ⟨fs, .nil, h⟩
      · rintro ⟨fs₁, hover, h⟩
        cases hover
        exact h
  | cons file files ih =>
      rw [List.map_cons, List.cons_append, writeAll, List.map_cons]
      constructor
      · intro h
        split at h
        · next fs' outcome hwrite =>
            obtain ⟨hwritten, rfl⟩ := write_always_eq_ok_iff.mp hwrite
            obtain ⟨fs₁, hover, hrest⟩ := ih.mp h
            refine ⟨fs₁, .cons hwritten hover, ?_⟩
            rwa [Written.add, List.append_assoc, List.singleton_append] at hrest
        · cases h
      · rintro ⟨fs₁, hover, hrest⟩
        cases hover with
        | cons first hover =>
            rw [first]
            refine ih.mpr ⟨fs₁, hover, ?_⟩
            rwa [Written.add, List.append_assoc, List.singleton_append]

/-- The support header comes last, and only where nothing stands at its path. -/
lemma writeAll_support_eq_ok_iff {done done' : Written} :
    writeAll base fs done [(.ifMissing, supportFile)] = (fs₂, .ok done') ↔
      (fs.exists? (join base supportFile.path) = true ∧ fs₂ = fs
          ∧ done' = { done with kept := done.kept ++ [supportFile.path] })
        ∨ (fs.exists? (join base supportFile.path) = false
          ∧ Overwrites base fs [supportFile] fs₂
          ∧ done' = { done with written := done.written ++ [supportFile.path] }) := by
  rw [writeAll]
  cases hstands : fs.exists? (join base supportFile.path) with
  | true =>
      rw [write_ifMissing_of_exists hstands]
      simp [writeAll, Written.add, supportFile, eq_comm]
  | false =>
      rw [write_ifMissing_of_absent hstands]
      constructor
      · intro h
        split at h
        · next fs' outcome hwrite =>
            obtain ⟨hwritten, rfl⟩ := write_always_eq_ok_iff.mp hwrite
            cases h
            exact .inr ⟨rfl, .cons hwritten .nil, rfl⟩
        · cases h
      · rintro (⟨h, -⟩ | ⟨-, hover, rfl⟩)
        · cases h
        · cases hover with
          | cons first rest =>
              cases rest
              rw [first]
              rfl

/-- What a run reports: the files that were written, the paths that were kept, and the names of the
functions without a binding. -/
def reportOf (o : Options) (n : NamespaceDecl) (files : List GeneratedFile) (kept : List String) :
    Generated where
  written := files.map (·.path)
  kept := kept
  ignored := (ignored o n).map (·.1)

variable {o : Options} {g : DeclGraph} {b : Bindings} {n : NamespaceDecl}

/-- Bindings that can be made are generated exactly by the runs in which every write succeeds. -/
lemma generate_eq_ok_iff (hsources : bindingFiles o g b n = .ok sources) {done : Generated} :
    generate fs base o g b n = (fs₂, .ok done) ↔
      ∃ files kept, Run base fs sources files kept fs₂ ∧ done = reportOf o n files kept := by
  have hall : generate fs base o g b n = (fs₂, .ok done) ↔ ∃ noted,
      writeAll base fs {} (sources.map (.always, ·) ++ [(.ifMissing, supportFile)])
          = (fs₂, .ok noted)
        ∧ done = { toWritten := noted, ignored := (ignored o n).map (·.1) } := by
    rw [generate, hsources]
    dsimp only
    split
    · next fs' noted hnoted =>
        rw [hnoted]
        simp [eq_comm]
    · next fs' e hnoted => simp [hnoted]
  rw [hall]
  constructor
  · rintro ⟨noted, hnoted, rfl⟩
    obtain ⟨fs₁, hover, hsupport⟩ := writeAll_append_eq_ok_iff.mp hnoted
    rcases writeAll_support_eq_ok_iff.mp hsupport with ⟨hstands, rfl, rfl⟩ | ⟨habsent, hover', rfl⟩
    · exact ⟨_, _, .kept hover hstands, by simp [reportOf]⟩
    · exact ⟨_, _, .written hover habsent hover', by simp [reportOf, supportFile]⟩
  · rintro ⟨files, kept, hrun, rfl⟩
    cases hrun with
    | kept hover hstands =>
        refine ⟨_, writeAll_append_eq_ok_iff.mpr ⟨_, hover,
          writeAll_support_eq_ok_iff.mpr (.inl ⟨hstands, rfl, rfl⟩)⟩, ?_⟩
        simp [reportOf]
    | written hover habsent hover' =>
        refine ⟨_, writeAll_append_eq_ok_iff.mpr ⟨_, hover,
          writeAll_support_eq_ok_iff.mpr (.inr ⟨habsent, hover', rfl⟩)⟩, ?_⟩
        simp [reportOf, supportFile]

/-- What a run leaves. -/
lemma Run.holds {kept : List String} (h : Run base fs sources files kept fs₂) :
    Holds base fs files fs₂ := by
  cases h with
  | kept hover _ => exact hover.holds
  | written hover _ hover' => exact (hover.append hover').holds

/-- Every file of the preview is written or kept by a run. -/
lemma Run.paths {kept : List String} (h : Run base fs sources files kept fs₂) :
    files.map (·.path) ++ kept = (sources ++ [supportFile]).map (·.path) := by
  cases h with
  | kept _ _ => rw [List.map_append, List.map_singleton]
  | written _ _ _ => rw [List.append_nil]

/-! ### Running again -/

/-- A path ends as the one below the base does. -/
lemma endsWith_join {c : Char} {path : String} (h : endsWith c path = true) :
    endsWith c (join base path) = true := by
  have happend : ∀ front : String, endsWith c (front ++ path) = true := by
    intro front
    rw [endsWith, beq_iff_eq] at h ⊢
    rw [String.toList_append, List.getLast?_append, h, Option.some_or]
  rw [join]
  split
  · exact h
  split
  · exact happend base
  · exact happend (base ++ "/")

lemma endsWith_sourcePath (stem : String) : endsWith 'p' (sourcePath stem) = true := by
  rw [endsWith, sourcePath, String.toList_append, List.getLast?_append]
  rfl

/-- No source stands where the support header does: their names end differently. -/
lemma locate?_support_ne {l : Location} {stem : String}
    (hsource : fs.locate? (join base (sourcePath stem)) = some l) :
    fs.locate? (join base supportFile.path) ≠ some l := by
  intro hsupport
  obtain ⟨above, name, hl, hname⟩ := exists_name_of_locate? hsource
    (endsWith_join (endsWith_sourcePath stem)) (by decide) (by decide)
  obtain ⟨above', name', hl', hname'⟩ := exists_name_of_locate? (c := 'h') hsupport
    (endsWith_join (by decide)) (by decide) (by decide)
  obtain ⟨-, heq⟩ := List.append_inj' (hl.symm.trans hl') rfl
  obtain rfl := List.singleton_inj.mp heq
  rw [endsWith, beq_iff_eq] at hname hname'
  rw [hname] at hname'
  cases hname'

lemma endsWithSlash_support : endsWithSlash (join base supportFile.path) = false := by
  have hend : endsWith 'h' (join base supportFile.path) = true := endsWith_join (by decide)
  rw [endsWith, beq_iff_eq] at hend
  rw [endsWithSlash, endsWith, hend]
  rfl

/-- Where every path leads to the same place, the same file is the last one. -/
lemma lastAt?_congr (h : ∀ file ∈ files,
      fs₁.locate? (join base file.path) = fs.locate? (join base file.path)) (l : Location) :
    lastAt? fs₁ base files l = lastAt? fs base files l := by
  induction files with
  | nil => rfl
  | cons file files ih =>
      obtain ⟨hfile, hfiles⟩ := List.forall_mem_cons.mp h
      rw [lastAt?_cons, lastAt?_cons, hfile, ih hfiles]

/-- A source that was written last to its place is found there after the run. -/
lemma Run.fileAt?_of_lastAt? {kept : List String} (h : Run base fs sources files kept fs₂)
    (hstems : ∀ file ∈ sources, ∃ stem, file.path = sourcePath stem) {l : Location}
    (hlast : lastAt? fs₂ base sources l = some file) :
    fs₂.fileAt? l = some file.content.toUTF8 := by
  have hfiles : lastAt? fs₂ base files l = some file := by
    cases h with
    | kept _ _ => exact hlast
    | written _ _ _ =>
        have hfile := List.mem_reverse.mp (List.mem_of_find?_eq_some hlast)
        obtain ⟨stem, hstem⟩ := hstems file hfile
        have hlocated := List.find?_some hlast
        rw [beq_iff_eq, hstem] at hlocated
        rw [lastAt?, List.reverse_append, List.reverse_singleton, List.singleton_append,
          List.find?_cons_of_neg (by simpa using locate?_support_ne hlocated)]
        exact hlast
  rw [h.holds.contents, hfiles, Option.map_some, Option.some_or]

/-- After a run another one keeps the support header and changes nothing. -/
lemma Run.again {kept : List String} (h : Run base fs sources files kept fs₂)
    (hstems : ∀ file ∈ sources, ∃ stem, file.path = sourcePath stem) :
    ∃ fs₃, Run base fs₂ sources sources [supportFile.path] fs₃
      ∧ fs₃.current = fs₂.current ∧ ∀ l, fs₃.lookup? l = fs₂.lookup? l := by
  have hready : (∀ file ∈ sources, ∃ l, Rewritable fs₂ (join base file.path) l)
      ∧ fs₂.exists? (join base supportFile.path) = true := by
    cases h with
    | kept hover hstands => exact ⟨hover.rewritable, hstands⟩
    | written hover _ hover' =>
        refine ⟨fun file hfile => (hover.rewritable file hfile).imp fun _ hl =>
          hl.grow hover'.grows, ?_⟩
        obtain ⟨l, hl⟩ := hover'.rewritable supportFile List.mem_cons_self
        obtain ⟨content, hcontent⟩ := Option.isSome_iff_exists.mp hl.file
        refine exists?_iff.mpr ⟨l, hl.located, ?_⟩
        rw [fileAt?_eq_some_iff.mp hcontent]
        simp
  obtain ⟨hsources, hstands⟩ := hready
  obtain ⟨fs₃, hover, hrefills⟩ := exists_overwrites_again hsources
  refine ⟨fs₃, .kept hover (hover.grows.exists? endsWithSlash_support hstands),
    hover.grows.current, fun l => hrefills.lookup?_eq ?_⟩
  have hsame : lastAt? fs₃ base sources l = lastAt? fs₂ base sources l := by
    refine lastAt?_congr (fun file hfile => ?_) l
    obtain ⟨k, hk⟩ := hsources file hfile
    rw [hk.located, (hk.grow hover.grows).located]
  rw [hover.fileAt?_eq, hsame]
  cases hlast : lastAt? fs₂ base sources l with
  | none => rfl
  | some file =>
      rw [h.fileAt?_of_lastAt? hstems hlast]
      rfl

/-! ### Bindings that cannot be made -/

/-- The text of some class, or that of the free functions where some of them get a binding, cannot
be made. -/
inductive RenderingFails (o : Options) (g : DeclGraph) (b : Bindings) (n : NamespaceDecl) :
    Prop where
  | ofClass {i : Nat} {c : ClassDecl} {cause : BindingError} (h : n.classes[i]? = some c)
      (fails : b.renderClass g i c = .error cause)
  | ofNamespace {cause : BindingError} (kept : keptMembers o n.functions ≠ none)
      (fails : b.renderNamespace n = .error cause)

lemma exists_classFile_iff {c : ClassDecl} {i : Nat} :
    (∃ file, classFile g b c i = .ok file) ↔ ∃ text, b.renderClass g i c = .ok text := by
  rw [classFile]
  cases b.renderClass g i c <;> simp

lemma exists_namespaceFile?_iff : (∃ file?, namespaceFile? o b n = .ok file?)
    ↔ (keptMembers o n.functions ≠ none → ∃ text, b.renderNamespace n = .ok text) := by
  rw [namespaceFile?]
  cases keptMembers o n.functions with
  | none => simp
  | some kept => cases b.renderNamespace n <;> simp

/-- All files are made exactly when all of their texts are. -/
lemma exists_bindingFiles_iff : (∃ files, bindingFiles o g b n = .ok files)
    ↔ (∀ i c, n.classes[i]? = some c → ∃ text, b.renderClass g i c = .ok text)
      ∧ (keptMembers o n.functions ≠ none → ∃ text, b.renderNamespace n = .ok text) := by
  have hclasses : (∃ files, (n.classes.zipIdx.mapM fun p => classFile g b p.1 p.2) = .ok files)
      ↔ ∀ i c, n.classes[i]? = some c → ∃ text, b.renderClass g i c = .ok text := by
    rw [exists_mapM_eq_ok_iff]
    simp only [Prod.forall, List.mem_zipIdx_iff_getElem?, exists_classFile_iff]
    exact forall_comm
  rw [← hclasses, ← exists_namespaceFile?_iff, bindingFiles]
  constructor
  · rintro ⟨files, h⟩
    obtain ⟨classes, hclasses, h⟩ := bind_eq_ok_iff.mp h
    obtain ⟨free, hfree, -⟩ := bind_eq_ok_iff.mp h
    exact ⟨⟨classes, hclasses⟩, ⟨free, hfree⟩⟩
  · rintro ⟨⟨classes, hclasses⟩, ⟨free, hfree⟩⟩
    exact ⟨_, bind_eq_ok_iff.mpr ⟨classes, hclasses, bind_eq_ok_iff.mpr ⟨free, hfree, rfl⟩⟩⟩

lemma preview_eq_ok_iff : preview o g b n = .ok files
    ↔ ∃ sources, bindingFiles o g b n = .ok sources ∧ files = sources ++ [supportFile] := by
  rw [preview, map_eq_ok_iff]
  simp only [eq_comm]

lemma preview_eq_error_iff {e : Failure} :
    preview o g b n = .error e ↔ bindingFiles o g b n = .error e := by
  rw [preview]
  cases bindingFiles o g b n <;> simp [Except.map]

/-- A preview fails exactly when some text cannot be made. -/
lemma preview_error_iff : (∃ e, preview o g b n = .error e) ↔ RenderingFails o g b n := by
  simp only [preview_eq_error_iff, exists_eq_error_iff, exists_bindingFiles_iff]
  constructor
  · intro h
    by_contra hnot
    refine h ⟨fun i c hc => ?_, fun hkept => ?_⟩
    · by_contra hfails
      obtain ⟨cause, hcause⟩ := exists_eq_error_iff.mpr hfails
      exact hnot (.ofClass hc hcause)
    · by_contra hfails
      obtain ⟨cause, hcause⟩ := exists_eq_error_iff.mpr hfails
      exact hnot (.ofNamespace hkept hcause)
  · rintro (⟨hc, hcause⟩ | ⟨hkept, hcause⟩) ⟨hclasses, hfree⟩
    · obtain ⟨text, htext⟩ := hclasses _ _ hc
      rw [hcause] at htext
      cases htext
    · obtain ⟨text, htext⟩ := hfree hkept
      rw [hcause] at htext
      cases htext

/-- Every source is a source by its name. -/
lemma exists_stem_of_mem_bindingFiles (h : bindingFiles o g b n = .ok sources) :
    ∀ file ∈ sources, ∃ stem, file.path = sourcePath stem := by
  rw [bindingFiles] at h
  obtain ⟨classes, hclasses, h⟩ := bind_eq_ok_iff.mp h
  obtain ⟨free, hfree, h⟩ := bind_eq_ok_iff.mp h
  cases h
  refine List.forall_mem_append.mpr ⟨fun file hfile => ?_, fun file hfile => ?_⟩
  · obtain ⟨⟨c, i⟩, -, hmade⟩ := exists_left_of_mem (mapM_eq_ok_iff.mp hclasses) hfile
    dsimp only at hmade
    rw [classFile] at hmade
    split at hmade
    · cases hmade
      exact ⟨_, rfl⟩
    · cases hmade
  · rw [Option.mem_toList] at hfile
    rw [namespaceFile?] at hfree
    split at hfree
    · cases hfree
      cases hfile
    split at hfree
    · cases hfree
      cases hfile
      exact ⟨_, rfl⟩
    · cases hfree

/-- **Generating refines previewing.** A preview fails exactly when some text cannot be made, and a
generation then fails with the same error and leaves the file system as it is. Otherwise it ends
well exactly by a run in which every write succeeds: the files of the preview written in order, with
the support header at the end unless something stands at its path. After such a run every location
holds the last file whose path leads there and no other file has changed, and another generation
writes the same sources, keeps the support header and changes nothing. -/
theorem generate_refines_preview (fs : FileSystem) (base : String) (o : Options) (g : DeclGraph)
    (b : Bindings) (n : NamespaceDecl) :
    ((∃ e, preview o g b n = .error e) ↔ RenderingFails o g b n)
      ∧ (∀ e, preview o g b n = .error e → generate fs base o g b n = (fs, .error e))
      ∧ ∀ files, preview o g b n = .ok files → ∃ sources, files = sources ++ [supportFile]
        ∧ (∀ fs₂ done, generate fs base o g b n = (fs₂, .ok done) ↔ ∃ written kept,
            Run base fs sources written kept fs₂ ∧ done = reportOf o n written kept)
        ∧ ∀ fs₂ written kept, Run base fs sources written kept fs₂ →
            Holds base fs written fs₂
            ∧ ∃ fs₃, generate fs₂ base o g b n
                = (fs₃, .ok (reportOf o n sources [supportFile.path]))
              ∧ fs₃.current = fs₂.current ∧ ∀ l, fs₃.lookup? l = fs₂.lookup? l := by
  refine ⟨preview_error_iff, fun e h => ?_, fun files h => ?_⟩
  · rw [generate, preview_eq_error_iff.mp h]
  · obtain ⟨sources, hsources, rfl⟩ := preview_eq_ok_iff.mp h
    refine ⟨sources, rfl, fun fs₂ done => generate_eq_ok_iff hsources, ?_⟩
    intro fs₂ written kept hrun
    obtain ⟨fs₃, hagain, hsame⟩ := hrun.again (exists_stem_of_mem_bindingFiles hsources)
    exact ⟨hrun.holds, fs₃, (generate_eq_ok_iff hsources).mpr ⟨_, _, hagain, rfl⟩, hsame⟩

/-- A namespace with one class. -/
def imageNamespace : NamespaceDecl := .ofSources "dub" [imageSource] []

/-- A renderer that makes no class. -/
def refusing : Renderer where
  renderClass _ c := .error (.unboundRenderer c.name)
  renderNamespace := (renderer {}).renderNamespace
  functions := wrappers

/-- Where nothing stands, the support header is written behind the class, and the next run keeps it.
With the class bound to a renderer that makes none, nothing is written. -/
theorem generate_refines_preview_image :
    let n := imageNamespace
    let g := (boundTo {} n).1
    let b := (boundTo {} n).2
    (∃ files fs₂ fs₃, preview {} g b n = .ok files
        ∧ generate {} "out" {} g b n = (fs₂, .ok {
            written := ["dub_Image.cpp", "dub/dub.h"], kept := [], ignored := ["Image::Image"] })
        ∧ Holds "out" {} files fs₂
        ∧ generate fs₂ "out" {} g b n = (fs₃, .ok {
            written := ["dub_Image.cpp"], kept := ["dub/dub.h"], ignored := ["Image::Image"] })
        ∧ ∀ l, fs₃.lookup? l = fs₂.lookup? l)
      ∧ generate {} "out" {} g (b.apply (.bindClass 0 refusing)) n
        = ({}, .error (.classText "Image" (.unboundRenderer "Image"))) := by
  intro n g b
  constructor
  · obtain ⟨-, -, hmade⟩ := generate_refines_preview {} "out" {} g b n
    obtain ⟨sources, hfiles, hruns, hagain⟩ := hmade _ (preview_boundTo {} n)
    obtain ⟨done, hdone, hnoted⟩ : ∃ done, (generate {} "out" {} g b n).2 = .ok done
        ∧ done = {
          written := ["dub_Image.cpp", "dub/dub.h"], kept := [], ignored := ["Image::Image"] } :=
      exists_eq_ok_of_any (by decide +kernel)
    rw [hnoted] at hdone
    obtain ⟨fs₂, hfirst⟩ : ∃ fs₂, generate {} "out" {} g b n = (fs₂, .ok _) :=
      ⟨_, Prod.ext rfl hdone⟩
    obtain ⟨written, kept, hrun, hreport⟩ := (hruns _ _).mp hfirst
    obtain ⟨hholds, fs₃, hsecond, -, hsame⟩ := hagain _ _ _ hrun
    cases hrun with
    | kept _ _ => cases congrArg (·.kept) hreport
    | written _ _ _ =>
        have hpaths : ["dub_Image.cpp"] ++ [supportFile.path]
            = sources.map (·.path) ++ [supportFile.path] :=
          (congrArg (·.written) hreport).trans List.map_append
        have hignored : ["Image::Image"] = (ignored {} n).map (·.1) :=
          congrArg (·.ignored) hreport
        refine ⟨_, fs₂, fs₃, preview_boundTo {} n, hfirst, hfiles ▸ hholds, ?_, hsame⟩
        rw [hsecond, reportOf, ← List.append_cancel_right hpaths, ← hignored]
        rfl
  · obtain ⟨-, hfails, -⟩ :=
      generate_refines_preview {} "out" {} g (b.apply (.bindClass 0 refusing)) n
    exact hfails _ rfl

end LuaBinder.Lua
