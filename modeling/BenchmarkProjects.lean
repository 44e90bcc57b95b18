import BenchmarkProjects.Proxygen.HTTPMessage
import BenchmarkProjects.Proxygen.Compression
import BenchmarkProjects.Proxygen.CompressionTemps
import BenchmarkProjects.Proxygen.AcceptEncoding
import BenchmarkProjects.Xla.ScratchBufAllocator
import BenchmarkProjects.TinyTemplates.TemplateMemberAccessor
import BenchmarkProjects.Proxygen.UpstreamTestFixture
