import DtoGen.Machine.Host
import DtoGen.Proofs.ConfigurationSearch

namespace DtoGen

namespace Host

/-- The programs that lie in the tree. -/
def programs (environment : Environment) : Behaviour := fun invocation inner =>
  inner.runProgram environment { invocation with directory := none }

end Host

namespace FileTree

variable {tree inner : FileTree} {directory : Option Path}

theorem leave_of_enter? (h : tree.enter? directory = some inner) :
    { inner with workingDirectory := tree.workingDirectory, mask := tree.mask } = tree := by
  cases directory with
  | none =>
    obtain rfl := Option.some.inj h
    rfl
  | some directory =>
    obtain ⟨_, _, _, rfl⟩ := enter?_eq_some_iff.mp h
    rfl

/-- Running a program in a directory is entering the directory and running it there. -/
theorem runProgram_eq (tree : FileTree) (environment : Environment) (invocation : Invocation) :
    tree.runProgram environment invocation
      = match tree.enter? invocation.directory with
        | none => (none, tree)
        | some inner =>
          let (result, after) := Host.programs environment invocation inner
          (result, { after with
            workingDirectory := tree.workingDirectory
            mask := tree.mask }) := by
  cases h : tree.enter? invocation.directory with
  | none =>
    rw [runProgram, launch?, h]
    rfl
  | some inner =>
    have hlaunch : tree.launch? environment invocation
        = inner.launch? environment { invocation with directory := none } := by
      rw [launch?, h]
      rfl
    simp only [Host.programs]
    rw [runProgram, runProgram, hlaunch]
    cases inner.launch? environment { invocation with directory := none } with
    | none => exact congrArg (Prod.mk none) (leave_of_enter? h).symm
    | some launched => rfl

end FileTree

namespace Host

/-- The host of a tree runs the programs that lie in it. -/
theorem run_ofFileTree (environment : Environment) (invocation : Invocation) (session : Session) :
    (ofFileTree environment).run invocation session.tree
      = ((running (programs environment)).run invocation session).map id Session.tree := by
  have hprogram : (ofFileTree environment).run invocation session.tree
      = session.tree.runProgram environment invocation :=
    rfl
  rw [hprogram, FileTree.runProgram_eq]
  unfold running
  dsimp only
  cases session.tree.enter? invocation.directory <;> rfl

end Host

namespace Prettier

theorem search_ofFileTree (environment : Environment) (program : String) (directory : Path)
    (session : Session) : search (.ofFileTree environment) program directory session.tree
      = (search (.running (Host.programs environment)) program directory session).map id
        Session.tree := by
  rw [search_eq, search_eq, Host.run_ofFileTree]
  rfl

/-- With the programs that lie in the tree, this is the search of the tree's own host. -/
theorem resolveConfig_ofFileTree (environment : Environment) (program : String) (path : Path)
    (session : Session) : resolveConfig (.ofFileTree environment) program path session.tree
      = (resolveConfig (.running (Host.programs environment)) program path session).map id
        Session.tree := by
  have hkind : (Host.ofFileTree environment).kind? path session.tree
      = ((session.tree.find? path).map Host.kindOf, session.tree) :=
    rfl
  rw [resolveConfig_eq _ _ hkind, resolveConfig_eq _ _ (kind?_running _ path session)]
  unfold resolveAs
  split
  · rfl
  · exact search_ofFileTree environment program path session
  · exact search_ofFileTree environment program path session
  · split
    · rfl
    · exact search_ofFileTree environment program _ session

end Prettier

end DtoGen
