import SqlBench.Address
import SqlBench.Collector
import SqlBench.Measurement.EngineStats
import SqlBench.Web.Client

set_option autoImplicit false

namespace SqlBench.Web

def statementAddress (engineUrl queryId : String) : String :=
  Address.join engineUrl ["v1", "query", queryId]

def engineAt {σ : Type} (client : Client σ) (engineUrl : String) : EngineClient σ :=
  fun queryId s =>
    let address := statementAddress engineUrl queryId
    let (document, later) := client.fetch address s
    (⟨(client.send address .fetch s).waited, (document >>= EngineStats.parse).mapError .failed⟩, later)

end SqlBench.Web
