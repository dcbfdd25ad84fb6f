import LayerNet.Proofs.Json.Compact
import LayerNet.Proofs.Training.Compilation

/-!
# What a fingerprint tells

The digest of a compilation is made of the script with the payload behind it, and nothing between.
The script ends with a line feed and the payload has none, so that it is clear where the payload
begins; and the payload, which is a document on one line, tells its fields.

Main definitions:

- `Compilation.SameRequest`: what two equal payloads have in common.

Main results:

- `script_payload_inj`: the text that is digested tells the script and the payload.
- `sameRequest_of_payload_eq`: a payload tells what is asked of the runtime.
- `request_of_fingerprint`: both, for compilations that reach the runtime.
-/

namespace LayerNet.Compilation

/-! ## The script -/

theorem exists_toList_ofLines {lines : List String} (h : lines ≠ []) :
    ∃ front, (Script.ofLines lines).toList = front ++ ['\n'] := by
  rw [← List.dropLast_concat_getLast h]
  refine ⟨(Script.ofLines lines.dropLast ++ lines.getLast h).toList, ?_⟩
  simp [Script.ofLines, String.join_append, String.join_cons]

/-- The training script ends with a line feed. -/
theorem exists_toList_training (definitions : List String) :
    ∃ front, (Script.training definitions).toList = front ++ ['\n'] := by
  have hlines : Script.linesAfterDefinitions ≠ [] := List.cons_ne_nil _ _
  rcases exists_toList_ofLines hlines with ⟨front, hfront⟩
  refine ⟨(Script.beforeDefinitions ++ "\n".intercalate (collectDefinitions definitions) ++
    "\n").toList ++ front, ?_⟩
  simp only [Script.training, Script.afterDefinitions, String.toList_append, hfront,
    List.append_assoc]

/-- What is digested tells the script and the payload, though nothing stands between them. -/
theorem script_payload_inj {definitions definitions' : List String} {payload payload' : Json}
    (h : Script.training definitions ++ payload.compact =
      Script.training definitions' ++ payload'.compact) :
    Script.training definitions = Script.training definitions' ∧
      payload.compact = payload'.compact := by
  have hline (j : Json) : '\n' ∉ j.compact.toList := by
    rw [Json.compact, String.toList_ofList]
    exact Json.control_not_mem_compactChars (by decide) j
  rcases exists_toList_training definitions with ⟨front, hfront⟩
  rcases exists_toList_training definitions' with ⟨front', hfront'⟩
  have hchars : front ++ '\n' :: payload.compact.toList =
      front' ++ '\n' :: payload'.compact.toList := by
    simpa [hfront, hfront'] using congrArg String.toList h
  rcases Text.append_cons_inj_of_not_mem_back (hline _) (hline _) hchars with ⟨rfl, hpayload⟩
  exact ⟨String.toList_inj.mp (hfront.trans hfront'.symm), String.toList_inj.mp hpayload⟩

/-! ## The payload -/

/-- What two compilations ask of the runtime with the same payload: the definitions and the
optimizers are written alike, and all else is the same. -/
structure SameRequest (definition definition' : Json) (config config' : CompileConfig) : Prop where
  definition : definition.sorted.compact = definition'.sorted.compact
  optimizer : config.optimizer.toJson.compact = config'.optimizer.toJson.compact
  loss : config.loss = config'.loss
  saveDirectory : config.saveDirectory = config'.saveDirectory
  infoDirectory : config.infoDirectory = config'.infoDirectory
  batchSize : config.batchSize = config'.batchSize
  cpuInference : config.cpuInference = config'.cpuInference

theorem sameRequest_of_payload_eq {definition definition' : Json} {config config' : CompileConfig}
    (h : (config.payload definition).compact = (config'.payload definition').compact) :
    SameRequest definition definition' config config' := by
  have hfields := Json.forall₂_of_compactChars_obj_eq (String.ofList_injective h)
  simp only [List.forall₂_cons, Json.SameField, true_and] at hfields
  rcases hfields with ⟨hdefinition, hoptimizer, hloss, hsave, hinfo, hbatch, hcpu, -⟩
  have hname : config.loss.name = config'.loss.name := Json.compactChars_str_inj hloss
  have hparsed : some config.loss = some config'.loss := by
    rw [← Loss.ofName?_name, hname, Loss.ofName?_name]
  exact {
    definition := Json.compactChars_str_inj hdefinition
    optimizer := congrArg String.ofList hoptimizer
    loss := Option.some.inj hparsed
    saveDirectory := Json.compactChars_str_inj hsave
    infoDirectory := Json.compactChars_ofOption_inj hinfo
    batchSize := Json.compactChars_ofNat_inj hbatch
    cpuInference := Json.compactChars_bool_inj hcpu }

/-! ## Compilations -/

/-- Whatever else a compilation does, the runtime is given its script and its payload. -/
theorem call_eq_of_calls_eq {bridge : Bridge} {definition : Json} {definitions : List String}
    {config : CompileConfig} {world : World} {call : Call}
    (h : ((compileDefinition bridge definition definitions config).run world).2.calls =
      world.calls ++ [call]) : call = callOf definition definitions config := by
  have hcourse := course_compileDefinition bridge definition definitions config world
  generalize (compileDefinition bridge definition definitions config).run world = run at h hcourse
  cases hcourse with
  | refused => simp at h
  | unprepared => simp at h
  | called hcall =>
      rw [← hcall]
      exact (List.singleton_inj.mp (List.append_cancel_left h)).symm

/-- For two compilations that reach the runtime, the bytes that are digested tell the script and the
payload, and the payload tells what is asked.  So equal fingerprints mean the same request, unless
the digests of two different texts are the same. -/
theorem request_of_fingerprint {bridge bridge' : Bridge} {definition definition' : Json}
    {definitions definitions' : List String} {config config' : CompileConfig}
    {world world' : World} {call call' : Call}
    (hcall : ((compileDefinition bridge definition definitions config).run world).2.calls =
      world.calls ++ [call])
    (hcall' : ((compileDefinition bridge' definition' definitions' config').run world').2.calls =
      world'.calls ++ [call']) :
    ((call.script ++ call.payload).toUTF8 = (call'.script ++ call'.payload).toUTF8 →
        call.script = call'.script ∧ call.payload = call'.payload) ∧
      (call.payload = call'.payload → SameRequest definition definition' config config') ∧
      ((Blake3.hexDigest (call.script ++ call.payload).toUTF8 =
            Blake3.hexDigest (call'.script ++ call'.payload).toUTF8 →
          (call.script ++ call.payload).toUTF8 = (call'.script ++ call'.payload).toUTF8) →
        fingerprint call.script call.payload = fingerprint call'.script call'.payload →
          call = call' ∧ SameRequest definition definition' config config') := by
  have hgiven : call = callOf definition definitions config := call_eq_of_calls_eq hcall
  have hgiven' : call' = callOf definition' definitions' config' := call_eq_of_calls_eq hcall'
  have hsplit : (call.script ++ call.payload).toUTF8 = (call'.script ++ call'.payload).toUTF8 →
      call.script = call'.script ∧ call.payload = call'.payload := by
    intro hbytes
    rw [hgiven, hgiven'] at hbytes ⊢
    exact script_payload_inj (String.toByteArray_inj.mp hbytes)
  have hsame : call.payload = call'.payload →
      SameRequest definition definition' config config' := by
    intro hpayload
    rw [hgiven, hgiven'] at hpayload
    exact sameRequest_of_payload_eq hpayload
  refine ⟨hsplit, hsame, fun hinjective hdigest => ?_⟩
  rcases hsplit (hinjective hdigest) with ⟨hscript, hpayload⟩
  exact ⟨congrArg₂ Call.mk hscript hpayload, hsame hpayload⟩

/-- A definition. -/
def plainDefinition : Json :=
  .obj [("class_name", .str "Model"), ("config", .null)]

/-- The same definition with its keys in another order. -/
def turnedDefinition : Json :=
  .obj [("config", .null), ("class_name", .str "Model")]

/-- Two definitions whose keys are in different orders are compiled, one of them with a blank source
text; the runtimes are given the same. -/
theorem request_of_fingerprint_turned :
    ((compileDefinition idle plainDefinition [] outConfig).run ⟨deviceFiles, []⟩).2.calls =
        [] ++ [callOf plainDefinition [] outConfig] ∧
      ((compileDefinition idle turnedDefinition [" "] outConfig).run ⟨deviceFiles, []⟩).2.calls =
        [] ++ [callOf turnedDefinition [" "] outConfig] ∧
      callOf plainDefinition [] outConfig = callOf turnedDefinition [" "] outConfig ∧
      SameRequest plainDefinition turnedDefinition outConfig outConfig := by
  have hcall (definition : Json) (definitions : List String) :
      ((compileDefinition idle definition definitions outConfig).run ⟨deviceFiles, []⟩).2.calls =
        [] ++ [callOf definition definitions outConfig] := by
    rcases run_compileDefinition_of_prepares idle definitions ⟨deviceFiles, []⟩ rfl (by decide)
      (prepares_deviceFiles definition) with ⟨outcome, files, -, hrun⟩
    rw [hrun]
  have hdefinitions : collectDefinitions [] = collectDefinitions [" "] := by decide +kernel
  have hscript : Script.training [] = Script.training [" "] := by
    rw [Script.training, hdefinitions, Script.training]
  have hsorted : plainDefinition.sorted = turnedDefinition.sorted := rfl
  have hpayload : (outConfig.payload plainDefinition).compact =
      (outConfig.payload turnedDefinition).compact := by
    rw [CompileConfig.payload, hsorted, CompileConfig.payload]
  have hrequest := request_of_fingerprint (hcall plainDefinition []) (hcall turnedDefinition [" "])
  have hsame : callOf plainDefinition [] outConfig = callOf turnedDefinition [" "] outConfig :=
    congrArg₂ Call.mk hscript hpayload
  exact ⟨hcall _ _, hcall _ _, hrequest.2.2 (fun _ => by rw [hsame]) (by rw [hsame])⟩

end LayerNet.Compilation
