import ScanCheck.Codec.Record

namespace ScanCheck

/-- A component of a project, given by the place of its source. -/
structure Component where
  name : String
  kind : String
  branch : String
  url : String
deriving DecidableEq, Repr

def Component.codec : Codec Component :=
  .record
    (.cons "name" .string none (.cons "type" .string none
      (.cons "branch" .string none (.cons "url" .string none .nil))))
    (fun (name, kind, branch, url, ()) => { name, kind, branch, url })
    (fun component => (component.name, component.kind, component.branch, component.url, ()))

structure ScanPayload where
  project : String
  components : List Component
deriving DecidableEq, Repr

namespace ScanPayload

def codec : Codec ScanPayload :=
  .record (.cons "project" .string none (.cons "components" Component.codec.list none .nil))
    (fun (project, components, ()) => { project, components })
    (fun payload => (payload.project, payload.components, ()))

def label (payload : ScanPayload) : String :=
  payload.project ++ "[" ++ ",".intercalate (payload.components.map (·.name)) ++ "]"

end ScanPayload

structure AnalysisPayload where
  project : String
  component : String
  url : String
  kwScanLink : String
deriving DecidableEq, Repr

namespace AnalysisPayload

def codec : Codec AnalysisPayload :=
  .record
    (.cons "project" .string none (.cons "component" .string none
      (.cons "url" .string none (.cons "kw_scan_link" .string none .nil))))
    (fun (project, component, url, kwScanLink, ()) => { project, component, url, kwScanLink })
    (fun payload => (payload.project, payload.component, payload.url, payload.kwScanLink, ()))

def label (payload : AnalysisPayload) : String := payload.project ++ "/" ++ payload.component

end AnalysisPayload

/-- The cases to run, by the service that they are submitted to. -/
structure SuiteFile where
  scan : List ScanPayload
  analysis : List AnalysisPayload
deriving DecidableEq, Repr

namespace SuiteFile

def codec : Codec SuiteFile :=
  .record
    (.cons "scan" ScanPayload.codec.list (some []) (.cons "analysis" AnalysisPayload.codec.list (some []) .nil))
    (fun (scan, analysis, ()) => { scan, analysis })
    (fun suite => (suite.scan, suite.analysis, ()))

def isEmpty (suite : SuiteFile) : Bool := suite.scan.isEmpty && suite.analysis.isEmpty

end SuiteFile

end ScanCheck
