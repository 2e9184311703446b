import DevDriver.Library.Footprint
import DevDriver.Model.StructuredValue

/-!
# Accessors leave no trace

An accessor that may set the error state of the tree clears it before it returns, and the others do
not set it.
-/

namespace DevDriver.Analysis

open Library Model StructuredValue

variable {α : Type} {node : MpackNode}

def document (tree : MpackTree) : List UInt8 × MpackNode := (tree.data, tree.root)

theorem eq_of_document {tree tree' : MpackTree} (hdocument : document tree = document tree')
    (herror : tree.error = tree'.error) : tree = tree' := by
  cases tree
  cases tree'
  cases hdocument
  cases herror
  rfl

theorem frames_nodeError : Frames document mpackNodeError :=
  Frames.get.bind fun _ => .pure _

theorem frames_flagError (error : MpackError) : Frames document (mpackNodeFlagError error) := by
  apply Frames.modify
  intro tree
  split
  · rfl
  · rfl

theorem frames_fail (error : MpackError) (a : α) :
    Frames document (do mpackNodeFlagError error; return a) :=
  (frames_flagError error).bind fun _ => .pure a

theorem frames_unlessError {failed : α} {m : MpackM α} (hm : Frames document m) :
    Frames document (do if (← mpackNodeError) ≠ .ok then return failed else m) :=
  frames_nodeError.bind fun _ => .ite (.pure failed) hm

theorem frames_nodeRead (failed : α) (read : MpackNode → Option α) (node : MpackNode) :
    Frames document (mpackNodeRead failed read node) := by
  apply frames_unlessError
  split
  · exact .pure _
  · exact frames_fail _ _

theorem frames_arrayAt (node : MpackNode) (index : ℕ) :
    Frames document (mpackNodeArrayAt node index) := by
  apply frames_unlessError
  split
  · split
    · exact .pure _
    · exact frames_fail _ _
  · exact frames_fail _ _

theorem frames_mapStrImpl (node : MpackNode) (str : List UInt8) :
    Frames document (mpackNodeMapStrImpl node str) := by
  apply frames_unlessError
  split
  · apply Frames.get.bind
    intro tree
    split
    · exact .pure _
    · exact frames_fail _ _
  · exact frames_fail _ _

theorem frames_mapCstrOptional (node : MpackNode) (cstr : List UInt8) :
    Frames document (mpackNodeMapCstrOptional node cstr) := by
  apply (frames_mapStrImpl node cstr).bind
  intro found
  split
  · exact .pure _
  · exact frames_nodeError.bind fun _ => .pure _

theorem frames_copyUtf8 (node : MpackNode) (buffer : List UInt8) :
    Frames document (mpackNodeCopyUtf8 node buffer) := by
  apply frames_unlessError
  split
  · apply Frames.ite (frames_fail _ _)
    exact Frames.get.bind fun _ => .ite (.pure _) (frames_fail _ _)
  · exact frames_fail _ _

theorem frames_copyCstr (node : MpackNode) (buffer : List UInt8) :
    Frames document (mpackNodeCopyCstr node buffer) := by
  apply frames_unlessError
  split
  · apply Frames.ite (frames_fail _ _)
    exact Frames.get.bind fun _ => .ite (frames_fail _ _) (.pure _)
  · exact frames_fail _ _

/-! ## What the accessors change -/

abbrev NoError (tree : MpackTree) : Prop := tree.error = .ok

theorem leavesAlone_of_frames {m : MpackM α} (hframes : Frames document m)
    (hends : EndsIn NoError m) : LeavesAlone NoError m :=
  .of_frames hframes hends fun _ _ => eq_of_document

theorem frames_packNode (node : MpackNode) : Frames document (packNode node) := by
  apply Frames.bind _ fun _ => .pure node
  apply Frames.modify
  intro tree
  split
  · rfl
  · rfl

theorem endsIn_packNode (node : MpackNode) : EndsIn NoError (packNode node) := by
  apply EndsIn.map
  apply EndsIn.modify
  intro tree
  split
  · rfl
  · rename_i h
    exact not_not.mp h

theorem frames_reset : Frames document resetInternalErrorState := by
  apply frames_nodeError.bind
  intro error
  apply Frames.bind _ fun _ => .pure _
  apply Frames.modify
  exact fun _ => rfl

theorem endsIn_reset : EndsIn NoError resetInternalErrorState := by
  apply EndsIn.bind
  intro error
  apply EndsIn.map
  apply EndsIn.modify
  exact fun _ => rfl

theorem leavesAlone_nodeType : LeavesAlone NoError (mpackNodeType node) :=
  .bind (.bind .get fun _ => .pure _) fun _ => .ite (.pure _) (.pure _)

theorem leavesAlone_getType : LeavesAlone NoError (getType node) := by
  apply LeavesAlone.bind leavesAlone_nodeType
  intro type
  cases type <;> exact .pure _

theorem leavesAlone_isNull : LeavesAlone NoError (isNull node) := by
  have herror : LeavesAlone NoError mpackNodeError := .bind .get fun _ => .pure _
  apply LeavesAlone.bind
  · exact herror.bind fun _ => .ite (.pure _) (.pure _)
  · intro isNil
    exact .ite (.pure _) (herror.bind fun _ => .ite (.pure _) (.pure _))

theorem leavesAlone_getScalar {read : MpackNode → MpackM α} (hread : Frames document (read node))
    (pValue : Bool) : LeavesAlone NoError (getScalar read pValue node) := by
  apply leavesAlone_of_frames
  · apply hread.bind
    intro value
    apply frames_nodeError.bind
    intro error
    exact frames_reset.bind fun _ => .pure _
  · exact .bind fun _ => .bind fun _ => endsIn_reset.map _

theorem frames_copyString (needsNull : Bool) (pBuffer : List UInt8) (node : MpackNode) :
    Frames document (copyString needsNull pBuffer node) :=
  .ite (frames_copyCstr _ _) (frames_copyUtf8 _ _)

theorem leavesAlone_getStringCopy (pBuffer : List UInt8) (pStringSize : Bool) :
    LeavesAlone NoError (StructuredValue.getStringCopy pBuffer pStringSize node) := by
  apply leavesAlone_of_frames
  · apply (frames_nodeRead _ _ _).bind
    intro pUtf8
    apply (frames_nodeRead _ _ _).bind
    intro len
    apply frames_nodeError.bind
    intro error
    apply Frames.ite _ (frames_reset.bind fun _ => .pure _)
    apply Frames.get.bind
    intro tree
    apply Frames.ite _ (frames_reset.bind fun _ => .pure _)
    exact (frames_copyString _ _ _).bind fun _ => frames_reset.bind fun _ => .pure _
  · apply EndsIn.bind
    intro pUtf8
    apply EndsIn.bind
    intro len
    apply EndsIn.bind
    intro error
    apply EndsIn.ite _ (endsIn_reset.map _)
    apply EndsIn.bind
    intro tree
    apply EndsIn.ite _ (endsIn_reset.map _)
    exact .bind fun _ => endsIn_reset.map _

theorem leavesAlone_getStringPtr : LeavesAlone NoError (getStringPtr node) := by
  apply leavesAlone_of_frames
  · apply (frames_nodeRead _ _ _).bind
    intro len
    apply (frames_nodeRead _ _ _).bind
    intro pUtf8
    apply frames_nodeError.bind
    intro error
    exact Frames.get.bind fun _ => frames_reset.bind fun _ => .pure _
  · exact .bind fun _ => .bind fun _ => .bind fun _ => .bind fun _ => endsIn_reset.map _

theorem leavesAlone_getValue {lookup : MpackNode → MpackM MpackNode}
    (hlookup : Frames document (lookup node)) (pValue : Bool) :
    LeavesAlone NoError (getValue lookup pValue node) := by
  apply LeavesAlone.ite _ (.pure _)
  have hfound : LeavesAlone NoError (do packNode (← lookup node)) := by
    apply leavesAlone_of_frames
    · exact hlookup.bind fun _ => frames_packNode _
    · exact .bind fun _ => endsIn_packNode _
  have hreset : LeavesAlone NoError resetInternalErrorState :=
    leavesAlone_of_frames frames_reset endsIn_reset
  have hrest (value : MpackNode) : LeavesAlone NoError (do
      if ← resetInternalErrorState then
        return (decide ((← getType value) ≠ .null), some value)
      else return (false, some value) : MpackM (Bool × Option MpackNode)) :=
    hreset.bind fun _ => .ite (leavesAlone_getType.bind fun _ => .pure _) (.pure _)
  exact (bind_assoc (m := MpackM) _ _ _) ▸ hfound.bind hrest

theorem leavesAlone_getArrayLength : LeavesAlone NoError (getArrayLength node) := by
  apply leavesAlone_of_frames
  · exact (frames_nodeRead _ _ _).bind fun _ => frames_reset.bind fun _ => .pure _
  · exact .bind fun _ => endsIn_reset.map _

theorem leavesAlone_getRoot : LeavesAlone NoError MessagePackReader.getRoot := by
  apply leavesAlone_of_frames
  · apply Frames.bind _ fun _ => frames_packNode _
    exact frames_nodeError.bind fun _ => .ite (.pure _) (Frames.get.bind fun _ => .pure _)
  · exact .bind fun _ => endsIn_packNode _

theorem leavesAlone_makeNull : LeavesAlone NoError makeNull :=
  leavesAlone_of_frames (frames_packNode _) (endsIn_packNode _)

theorem leavesAlone_run (node : MpackNode) (call : ValueCall) :
    LeavesAlone NoError (call.run node) := by
  cases call with
  | getRoot => exact leavesAlone_getRoot.bind fun _ => .pure _
  | getType => exact leavesAlone_getType.bind fun _ => .pure _
  | makeNull => exact leavesAlone_makeNull.bind fun _ => .pure _
  | isNull => exact leavesAlone_isNull.bind fun _ => .pure _
  | getStringCopy pBuffer pStringSize =>
    exact (leavesAlone_getStringCopy pBuffer pStringSize).bind fun _ => .pure _
  | getStringPtr => exact leavesAlone_getStringPtr.bind fun _ => .pure _
  | getValueByKey pKey pValue =>
    exact (leavesAlone_getValue (frames_mapCstrOptional node pKey) pValue).bind fun _ => .pure _
  | getValueByIndex index pValue =>
    exact (leavesAlone_getValue (frames_arrayAt node index) pValue).bind fun _ => .pure _
  | isMap => exact (leavesAlone_nodeType.bind fun _ => .pure _).bind fun _ => .pure _
  | isArray => exact (leavesAlone_nodeType.bind fun _ => .pure _).bind fun _ => .pure _
  | getArrayLength => exact leavesAlone_getArrayLength.bind fun _ => .pure _
  | _ => exact (leavesAlone_getScalar (frames_nodeRead _ _ _) _).bind fun _ => .pure _

theorem leavesAlone_runCalls (calls : List (MpackNode × ValueCall)) :
    LeavesAlone NoError (runCalls calls) := by
  induction calls with
  | nil => exact .pure _
  | cons x calls ih => exact (leavesAlone_run x.1 x.2).bind fun _ => ih

def answerAfter (calls : List (MpackNode × ValueCall)) (node : MpackNode) (call : ValueCall)
    (tree : MpackTree) : ValueAnswer :=
  ((do runCalls calls; call.run node : MpackM ValueAnswer).run tree).1

theorem answerAfter_eq {tree : MpackTree} (h : tree.error = .ok)
    (calls : List (MpackNode × ValueCall)) (node : MpackNode) (call : ValueCall) :
    answerAfter calls node call tree = ((call.run node).run tree).1 :=
  congrArg Prod.fst ((leavesAlone_runCalls calls).run_bind h)

/-- The calls before it make no difference to what an accessor returns. -/
theorem accessors_independent {tree : MpackTree}
    (h : MessagePackReader.initResult tree = .success)
    (calls calls' : List (MpackNode × ValueCall)) (node : MpackNode) (call : ValueCall) :
    answerAfter calls node call tree = answerAfter calls' node call tree := by
  have herror : tree.error = .ok := by
    by_contra hne
    rw [MessagePackReader.initResult, if_neg hne] at h
    cases h
  rw [answerAfter_eq herror, answerAfter_eq herror]

theorem accessors_independent_mistyped :
    answerAfter [(.uint 7, .getStringPtr), (.array [], .getValueByIndex 3 true)] (.uint 7)
      (.getUint8 true) ⟨[7], .uint 7, .ok⟩ =
    answerAfter [] (.uint 7) (.getUint8 true) ⟨[7], .uint 7, .ok⟩ :=
  accessors_independent rfl _ _ _ _

end DevDriver.Analysis
