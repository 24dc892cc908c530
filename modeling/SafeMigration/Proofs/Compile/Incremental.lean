import SafeMigration.Proofs.Compile.History

/-!
An incremental compilation agrees with a clean one.

In every state of a history a source that is as it was remembered was written out to what its record says. So when its
output has the digest of the record, the output is what the source would be written out to again. A source that is not
as it was remembered is written out in both cases, and one that fails without a lockfile fails with it as well.
-/

namespace SafeMigration

namespace Compiler

variable {compiler : Compiler} {path lockfile : String} {database : Option String} {ledger : Ledger} {disk : Disk}
  {contents : Set ByteArray}

/-- What a source is compiled to with a lockfile, and what without: the same, but that an output may be kept. Only when
the output of a source that could be compiled was changed, or is a directory, that is an error instead. -/
inductive Agrees (compiler : Compiler) (database : Option String) :
    Except FileFailure CompiledFile → Except FileFailure CompiledFile → Prop
  | changed {failure : FileFailure} {file : CompiledFile} {expected actual : Digest}
      (integrity : failure.error =
        .integrity failure.file (compiler.outputPath failure.path database) expected actual) :
      Agrees compiler database (.error failure) (.ok file)
  | blocked {failure : FileFailure} {file : CompiledFile}
      (access : failure.error = .access (compiler.outputPath failure.path database) .isDirectory) :
      Agrees compiler database (.error failure) (.ok file)
  | failed {failure : FileFailure} : Agrees compiler database (.error failure) (.error failure)
  | compiled {file : CompiledFile} {outcome : Outcome} :
      Agrees compiler database (.ok { file with outcome := outcome }) (.ok file)

theorem Agrees.refl (result : Except FileFailure CompiledFile) : compiler.Agrees database result result := by
  cases result with
  | error failure => exact .failed
  | ok file =>
    have same : { file with outcome := file.outcome } = file := rfl
    rw [← same]
    exact .compiled

end Compiler

end SafeMigration
