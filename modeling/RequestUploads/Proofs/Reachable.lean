import RequestUploads.Proofs.Pruning

namespace RequestUploads

/-- What operations and extractions, one after the other, make of no parameters. -/
inductive Params.Reachable : Params → Prop
  | empty : Reachable ∅
  | insert {params : Params} (name : String) (value : Value) :
      Reachable params → Reachable (params.insert name value).2
  | append {params : Params} (name : String) (value : Value) :
      Reachable params → Reachable (params.append name value)
  | remove {params : Params} (name : String) :
      Reachable params → Reachable (params.remove name).2
  | retain {params : Params} (keep : String → Value → Bool) :
      Reachable params → Reachable (params.retain keep)
  | collect (submissions : List (String × Value)) : Reachable (Params.collect submissions)
  | extract {params : Params} {σ : Type} (dialect : Dialect) (files : FileManager σ) (state : σ) :
      Reachable params → Reachable (extractUploads dialect files params state).params

namespace Params

theorem nodup_retain {params : Params} (nodup : params.names.Nodup)
    (keep : String → Value → Bool) : (params.retain keep).names.Nodup :=
  nodup.sublist (List.filter_sublist.map _)

theorem nodup_remove {params : Params} (nodup : params.names.Nodup) (name : String) :
    (params.remove name).2.names.Nodup :=
  nodup.sublist ((erase_sublist name params.entries).map _)

/-- Where uploads are found, the names are made anew, whatever they were. -/
theorem nodup_ofUploads {params : Params} (nodup : params.names.Nodup) (uploads : List Upload) :
    (Extraction.ofUploads params uploads).params.names.Nodup := by
  unfold Extraction.ofUploads
  split_ifs with reserved empty
  · exact nodup_retain nodup _
  · exact nodup_alter (nodup_collect _) _
  · exact nodup

theorem nodup_extractUploads {σ : Type} {params : Params} (nodup : params.names.Nodup)
    (dialect : Dialect) (files : FileManager σ) (state : σ) :
    (extractUploads dialect files params state).params.names.Nodup := by
  cases result : (extractUploads dialect files params state).result with
  | error refusal => rwa [extractUploads_of_error result]
  | ok uploads =>
      rw [extractUploads_of_uploads (readings_of_result result)]
      exact nodup_ofUploads nodup uploads

theorem Reachable.nodup {params : Params} (reachable : params.Reachable) :
    params.names.Nodup := by
  induction reachable with
  | empty => exact List.nodup_nil
  | insert name value _ ih => exact nodup_alter ih _
  | append name value _ ih => exact nodup_alter ih _
  | remove name _ ih => exact nodup_remove ih name
  | retain keep _ ih => exact nodup_retain ih keep
  | collect submissions => exact nodup_collect submissions
  | extract dialect files state _ ih => exact nodup_extractUploads ih dialect files state

end Params

end RequestUploads
